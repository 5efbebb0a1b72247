import JuryCaptions.Text.Utf8
/-!
The characters byte text spells in a UTF-8 locale, their classes, other case
and terminal width. A byte that begins no sequence decodes to `U+10FF00` plus
the byte, so `encode (decode s) = s`. Wide East Asian characters take two
columns, combining marks and controls none.
-/

namespace JuryCaptions
namespace Wide

def strayBase : Nat := 0x10FF00

def isStray (c : Char) : Bool := c.toNat ≥ strayBase

def decode (s : String) : List Char :=
  (Utf8.pieces (Utf8.bytesOf s)).map fun
    | .ok c => c
    | .error b => Char.ofNat (strayBase + b.toNat)

def encode (cs : List Char) : String :=
  String.ofList (cs.flatMap fun c =>
    if isStray c then [Char.ofNat (c.toNat - strayBase)]
    else (Utf8.encodeChar c).map fun b => Char.ofNat b.toNat)

def widen (s : String) : String := String.ofList (decode s)

def narrow (s : String) : String := encode s.toList

def encodeOne (c : Char) : String := encode [c]

def inRanges (n : Nat) (rs : List (Nat × Nat)) : Bool := rs.any fun (a, b) => a ≤ n && n ≤ b

/-- Pairs of an upper-case and a lower-case letter whose code points differ by
a fixed offset, as ranges of the upper case with that offset. -/
def offsetCases : List (Nat × Nat × Nat) :=
  [(0x41, 0x5A, 32), (0xC0, 0xD6, 32), (0xD8, 0xDE, 32), (0x391, 0x3A1, 32), (0x3A3, 0x3AB, 32),
   (0x410, 0x42F, 32), (0x400, 0x40F, 80), (0x388, 0x38A, 37), (0x38E, 0x38F, 63)]

/-- Ranges where each even code point is an upper-case letter and the one after
it its lower case. -/
def evenPairs : List (Nat × Nat) :=
  [(0x100, 0x137), (0x14A, 0x177), (0x182, 0x185), (0x1A0, 0x1A5), (0x1DE, 0x1EF), (0x1F8, 0x21F),
   (0x222, 0x233), (0x3D8, 0x3EF), (0x460, 0x481), (0x48A, 0x4BF), (0x4D0, 0x52F), (0x1E00, 0x1E95),
   (0x1EA0, 0x1EFF)]

/-- Ranges where each odd code point is an upper-case letter and the one after
it its lower case. -/
def oddPairs : List (Nat × Nat) :=
  [(0x139, 0x148), (0x179, 0x17E), (0x1CD, 0x1DC), (0x4C1, 0x4CE)]

def toLower (c : Char) : Char :=
  let n := c.toNat
  match offsetCases.find? (fun (a, b, _) => a ≤ n && n ≤ b) with
  | some (_, _, k) => Char.ofNat (n + k)
  | none =>
    if n == 0x178 then Char.ofNat 0xFF
    else if n == 0x386 then Char.ofNat 0x3AC
    else if n == 0x38C then Char.ofNat 0x3CC
    else if inRanges n evenPairs && n % 2 == 0 then Char.ofNat (n + 1)
    else if inRanges n oddPairs && n % 2 == 1 && n < (oddPairs.find? (fun (a, b) => a ≤ n && n ≤ b)).elim 0 (·.2)
      then Char.ofNat (n + 1)
    else c

def toUpper (c : Char) : Char :=
  let n := c.toNat
  match offsetCases.find? (fun (a, b, k) => a + k ≤ n && n ≤ b + k) with
  | some (_, _, k) => if n == 0xF7 then c else Char.ofNat (n - k)
  | none =>
    if n == 0xFF then Char.ofNat 0x178
    else if n == 0x3AC then Char.ofNat 0x386
    else if n == 0x3CC then Char.ofNat 0x38C
    else if n == 0x3C2 then Char.ofNat 0x3A3
    else if inRanges n evenPairs && n % 2 == 1 then Char.ofNat (n - 1)
    else if inRanges n oddPairs && n % 2 == 0 then Char.ofNat (n - 1)
    else c

def isUpper (c : Char) : Bool := toLower c != c

def isLower (c : Char) : Bool :=
  toUpper c != c || c.toNat == 0xDF || c.toNat == 0xB5

/-- Letters without case: the ordinal indicators, the scripts of East Asia and
some scripts written without case. -/
def caselessLetters : List (Nat × Nat) :=
  [(0xAA, 0xAA), (0xBA, 0xBA), (0x5D0, 0x5EA), (0x620, 0x64A), (0x671, 0x6D3), (0x904, 0x939),
   (0xE01, 0xE30), (0x1100, 0x11FF), (0x3041, 0x3096), (0x30A1, 0x30FA), (0x3400, 0x4DBF),
   (0x4E00, 0x9FFF), (0xAC00, 0xD7A3), (0xF900, 0xFAFF), (0x20000, 0x2FFFD)]

def isAlpha (c : Char) : Bool :=
  isUpper c || isLower c || inRanges c.toNat caselessLetters || inRanges c.toNat [(0x3B1, 0x3C9), (0x430, 0x45F)]

def isDigit (c : Char) : Bool := '0' ≤ c && c ≤ '9'

/-- Whether a character is a space: the ones of ASCII, and those of Unicode that
allow a line break. -/
def isSpace (c : Char) : Bool :=
  let n := c.toNat
  n == 32 || (9 ≤ n && n ≤ 13) ||
    inRanges n [(0x1680, 0x1680), (0x2000, 0x2006), (0x2008, 0x200A), (0x2028, 0x2029), (0x205F, 0x205F),
      (0x3000, 0x3000)]

/-- Whether a character is a blank: a space that ends no line. -/
def isBlank (c : Char) : Bool := isSpace c && c != '\n' && c.toNat != 11 && c.toNat != 12 && c != '\r' &&
  c.toNat != 0x2028 && c.toNat != 0x2029

def isControl (c : Char) : Bool :=
  let n := c.toNat
  n < 32 || (0x7F ≤ n && n < 0xA0) || n == 0x2028 || n == 0x2029

/-- Whether a character is printable: neither a control character nor a stray byte. -/
def isPrint (c : Char) : Bool := !isControl c && !isStray c

def isGraph (c : Char) : Bool := isPrint c && !isSpace c

/-- Whether a character is a punctuation mark or symbol: printable, not a space,
not a letter and not a digit. -/
def isPunct (c : Char) : Bool := isGraph c && !isAlpha c && !isDigit c

/-- The marks that combine with the character before them and take no column. -/
def combining : List (Nat × Nat) :=
  [(0x300, 0x36F), (0x483, 0x489), (0x591, 0x5BD), (0x610, 0x61A), (0x64B, 0x65F), (0x200B, 0x200F),
   (0x20D0, 0x20FF), (0xFE00, 0xFE0F), (0xFE20, 0xFE2F)]

def doubleWidth : List (Nat × Nat) :=
  [(0x1100, 0x115F), (0x2E80, 0x303E), (0x3041, 0x33FF), (0x3400, 0x4DBF), (0x4E00, 0x9FFF),
   (0xA000, 0xA4CF), (0xAC00, 0xD7A3), (0xF900, 0xFAFF), (0xFE30, 0xFE4F), (0xFF00, 0xFF60),
   (0xFFE0, 0xFFE6), (0x1F300, 0x1F64F), (0x1F900, 0x1F9FF), (0x20000, 0x2FFFD), (0x30000, 0x3FFFD)]

def width (c : Char) : Option Nat :=
  if !isPrint c then none
  else if inRanges c.toNat combining then some 0
  else if inRanges c.toNat doubleWidth then some 2
  else some 1

/-- The characters of a named class, as ranges; none for an unknown name. -/
def classTest (name : String) : Option (Char → Bool) :=
  match name with
  | "alpha" => some isAlpha
  | "digit" => some isDigit
  | "alnum" => some fun c => isAlpha c || isDigit c
  | "upper" => some isUpper
  | "lower" => some isLower
  | "space" => some isSpace
  | "blank" => some isBlank
  | "punct" => some isPunct
  | "xdigit" => some fun c => isDigit c || ('a' ≤ c && c ≤ 'f') || ('A' ≤ c && c ≤ 'F')
  | "print" => some isPrint
  | "graph" => some isGraph
  | "cntrl" => some isControl
  | _ => none

end Wide
end JuryCaptions
