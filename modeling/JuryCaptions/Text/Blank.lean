/-!
Blank characters, the Unicode white space, and words, the longest runs of
characters that are not blank.
-/

namespace JuryCaptions
namespace Blank

def isBlank (c : Char) : Bool :=
  let n := c.toNat
  (0x09 ≤ n && n ≤ 0x0D) || n = 0x20 || n = 0x85 || n = 0xA0 || n = 0x1680 ||
    (0x2000 ≤ n && n ≤ 0x200A) || n = 0x2028 || n = 0x2029 || n = 0x202F || n = 0x205F ||
    n = 0x3000

/-- Every blank that core's class of white space holds is blank here too. -/
theorem isBlank_of_isWhitespace (c : Char) (h : c.isWhitespace = true) : isBlank c = true := by
  simp only [Char.isWhitespace, Bool.or_eq_true, decide_eq_true_eq] at h
  simp only [isBlank, Bool.or_eq_true, Bool.and_eq_true, decide_eq_true_eq]
  rcases h with ((h | h) | h) | h <;> simp [h]

def wordsOf : List Char → List Char → List String → List String
  | [], cur, acc => (if cur.isEmpty then acc else String.ofList cur.reverse :: acc).reverse
  | c :: cs, cur, acc =>
    if isBlank c then wordsOf cs [] (if cur.isEmpty then acc else String.ofList cur.reverse :: acc)
    else wordsOf cs (c :: cur) acc

/-- The words of a text: its longest runs of characters that are not blank. -/
def fields (s : String) : List String := wordsOf s.toList [] []

def trim (s : String) : String :=
  String.ofList ((s.toList.dropWhile isBlank).reverse.dropWhile isBlank).reverse

end Blank
end JuryCaptions
