import JuryCaptions.Jury.Juror
import JuryCaptions.Text.Blank
/-!
Filling caption lines.

Words are laid out greedily: a word joins the line when it then holds at most
`width` bytes, else it starts a new one; only the last two lines are shown. A
word from another speaker starts a new utterance.
-/

namespace JuryCaptions
namespace Wrap

/-- The lines of a greedy fill: finished lines in reverse and the current one. -/
def fillStep (width : Nat) : List String × String → String → List String × String
  | (lines, cur), word =>
    if cur.utf8ByteSize = 0 then (lines, cur ++ word)
    else if cur.utf8ByteSize + 1 + word.utf8ByteSize ≤ width then (lines, cur ++ " " ++ word)
    else (cur :: lines, word)

def lines (words : List String) (width : Nat) : List String :=
  let (done, cur) := words.foldl (fillStep width) ([], "")
  (if cur.utf8ByteSize > 0 then cur :: done else done).reverse

/-- The last two lines of a greedy fill, joined by a line feed. A negative width
fills like width zero: every word on a line of its own. -/
def lastTwo (words : List String) (width : Int) : String :=
  let ls := lines words width.toNat
  "\n".intercalate (ls.drop (ls.length - 2))

end Wrap

structure Utterance where
  speaker : SpeakerId := ""
  words : List String := []
  deriving Repr, Inhabited

namespace Utterance

/-- Adds the words of a text said by a speaker; another speaker's words replace
what was collected. -/
def add (u : Utterance) (text : String) (speaker : SpeakerId) : Utterance :=
  let kept := if !u.words.isEmpty && u.speaker != speaker then [] else u.words
  { speaker := speaker, words := kept ++ Blank.fields text }

def reset (_ : Utterance) : Utterance := {}

/-- The speaker and the last two lines of the utterance at `width` bytes. -/
def view (u : Utterance) (width : Int) : SpeakerId × String :=
  (u.speaker, Wrap.lastTwo u.words width)

end Utterance
end JuryCaptions
