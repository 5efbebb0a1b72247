import JuryCaptions.Json.Basic
import JuryCaptions.Text.Quote
import JuryCaptions.Text.Utf8
import JuryCaptions.Text.Blank
import JuryCaptions.Number.Read
/-!
Reading JSON text by the grammar of RFC 8259, a byte a character. Strings are
decoded as UTF-8, a bad sequence or lone surrogate giving U+FFFD. A failure
names the first character that does not fit and what was looked for; nesting
stops at ten thousand levels.
-/

namespace JuryCaptions
namespace Json

/-- Where in the grammar the reader stood when it met a character it could not take. -/
inductive Place where
  | valueStart
  | keyStart
  | afterKey
  | afterMember
  | afterElement
  | afterTopValue
  | inString
  | inNumber
  | inLiteral (word : String) (expected : Char)
  deriving Repr, BEq

def Place.describe : Place → String
  | .valueStart => "looking for beginning of value"
  | .keyStart => "looking for beginning of object key string"
  | .afterKey => "after object key"
  | .afterMember => "after object key:value pair"
  | .afterElement => "after array element"
  | .afterTopValue => "after top-level value"
  | .inString => "in string"
  | .inNumber => "in numeric literal"
  | .inLiteral word c => "in literal " ++ word ++ " (expecting " ++ Quote.quotedChar c ++ ")"

inductive SyntaxError where
  | unexpectedEnd
  /-- Arrays and objects nested deeper than the reader allows. -/
  | tooDeep
  /-- A character that does not fit, as the bytes from it on (at most four),
  and where it stood. -/
  | invalidChar (front : List UInt8) (place : Place)
  /-- An escape in a string that is none, as its bytes. -/
  | invalidEscape (seq : List UInt8)
  deriving Repr, BEq

/-- The quoted form of the character that some bytes begin with, or of their
first byte, in hex, when it begins none. -/
def quoteFront (bs : List UInt8) : String :=
  match Utf8.pieces bs with
  | .error b :: _ => "'\\x" ++ String.ofList (Nat.toDigits 16 b.toNat) ++ "'"
  | .ok c :: _ => Quote.quotedChar c
  | [] => "''"

/-- An escape sequence in a message: between backquotes when all printable and
no blank, backquote or U+FFFD; quoted with escapes otherwise. -/
def showEscape (seq : List UInt8) : String :=
  let ps := Utf8.pieces seq
  let plain := ps.all fun
    | .ok c => c ≠ '\x60' ∧ c ≠ '�' ∧ !Blank.isBlank c ∧ Printable.isPrintable c
    | .error _ => false
  if plain then "\x60" ++ Utf8.decode seq ++ "\x60"
  else "\"" ++ String.join (ps.map fun
    | .ok c => Quote.escapeChar c
    | .error b => "\\x" ++ Utf8.hexByte b) ++ "\""

def SyntaxError.message : SyntaxError → String
  | .unexpectedEnd => "unexpected end of JSON input"
  | .tooDeep => "exceeded max depth"
  | .invalidChar front place => "invalid character " ++ quoteFront front ++ " " ++ place.describe
  | .invalidEscape seq => "invalid escape sequence " ++ showEscape seq ++ " in string"

def bytesOf (cs : List Char) : List UInt8 := cs.map (·.toNat.toUInt8)

def isBlank (c : Char) : Bool :=
  c = ' ' || c = '\t' || c = '\n' || c = '\r'

def skipBlanks : List Char → List Char
  | c :: cs => if isBlank c then skipBlanks cs else c :: cs
  | [] => []

/-- Fails at the first character of `cs`, or at the end. -/
def failAt {α : Type} (cs : List Char) (place : Place) : Except SyntaxError α :=
  match cs with
  | [] => .error .unexpectedEnd
  | _ => .error (.invalidChar (bytesOf (cs.take 4)) place)

def readWord (word : String) : List Char → List Char → Except SyntaxError (Unit × List Char)
  | [], cs => .ok ((), cs)
  | w :: ws, c :: cs => if c = w then readWord word ws cs else failAt (c :: cs) (.inLiteral word w)
  | _ :: _, [] => .error .unexpectedEnd

def readDigits : List Char → List Char × List Char
  | c :: cs =>
    if c.isDigit then
      let (ds, rest) := readDigits cs
      (c :: ds, rest)
    else ([], c :: cs)
  | [] => ([], [])

def readSomeDigits (cs : List Char) : Except SyntaxError (List Char × List Char) :=
  match readDigits cs with
  | ([], rest) => failAt rest .inNumber
  | (ds, rest) => .ok (ds, rest)

/-- Reads an optional fraction: a point and one or more digits. -/
def readFraction : List Char → Except SyntaxError (List Char × List Char)
  | '.' :: rest => do
    let (ds, rest') ← readSomeDigits rest
    pure ('.' :: ds, rest')
  | cs => .ok ([], cs)

def splitExponentSign : List Char → List Char × List Char
  | '+' :: r => (['+'], r)
  | '-' :: r => (['-'], r)
  | r => ([], r)

/-- Reads an optional exponent: `e` or `E`, an optional sign and one or more
digits. -/
def readExponent : List Char → Except SyntaxError (List Char × List Char)
  | e :: rest =>
    if e = 'e' || e = 'E' then do
      let (sign, rest') := splitExponentSign rest
      let (ds, r) ← readSomeDigits rest'
      pure (e :: sign ++ ds, r)
    else .ok ([], e :: rest)
  | [] => .ok ([], [])

/-- Reads the part of a number after its integer digits: an optional fraction
and exponent. The end of the text ends a number. -/
def readNumberTail (cs : List Char) : Except SyntaxError (List Char × List Char) := do
  let (f, rest) ← readFraction cs
  let (x, rest') ← readExponent rest
  pure (f ++ x, rest')

def splitSign : List Char → List Char × List Char
  | '-' :: r => (['-'], r)
  | r => ([], r)

/-- Reads the integer digits of a number: a lone `0`, or one or more digits. -/
def readIntegerPart : List Char → Except SyntaxError (List Char × List Char)
  | '0' :: r => .ok (['0'], r)
  | body => readSomeDigits body

def readNumber (cs : List Char) : Except SyntaxError (String × List Char) := do
  let (sign, body) := splitSign cs
  let (w, rest) ← readIntegerPart body
  let (t, rest') ← readNumberTail rest
  pure (String.ofList (sign ++ w ++ t), rest')

/-- The value of four hex digits at the front, and the characters after them. -/
def readHex4 (cs : List Char) : Option (Nat × List Char) :=
  let digits := cs.take 4
  if digits.length = 4 then
    (digits.foldlM (fun n c => (NumberText.hexValue c).map (n * 16 + ·)) 0).map (·, cs.drop 4)
  else none

/-- Whether the characters could be the start of a `\u` escape cut off by the
end of the text. -/
def isEscapePrefix (cs : List Char) : Bool :=
  cs.zipIdx.all fun (c, i) =>
    if i = 0 then c = '\\'
    else if i = 1 then c = 'u'
    else (NumberText.hexValue c).isSome

def surrogateChar (hi lo : Nat) : Char :=
  Char.ofNat (0x10000 + (hi - 0xD800) * 0x400 + (lo - 0xDC00))

def simpleEscape : Char → Option Char
  | '"' => some '"'
  | '\\' => some '\\'
  | '/' => some '/'
  | 'b' => some '\x08'
  | 'f' => some '\x0c'
  | 'n' => some '\n'
  | 'r' => some '\r'
  | 't' => some '\t'
  | _ => none

def readChars : Nat → List Char → List Char → Except SyntaxError (String × List Char)
  | 0, _, _ => .error .unexpectedEnd
  | _ + 1, _, [] => .error .unexpectedEnd
  | fuel + 1, acc, c :: cs =>
    if c = '"' then .ok (String.ofList acc.reverse, cs)
    else if c = '\\' then
      match cs with
      | [] => .error .unexpectedEnd
      | 'u' :: rest =>
        match readHex4 rest with
        | none =>
          if rest.length < 4 then
            if isEscapePrefix (c :: cs) then .error .unexpectedEnd
            else .error (.invalidEscape (bytesOf (c :: cs)))
          else .error (.invalidEscape (bytesOf ((c :: cs).take 6)))
        | some (u, rest') =>
          if 0xD800 ≤ u ∧ u < 0xDC00 then
            -- a high surrogate takes a following low surrogate escape
            match rest' with
            | '\\' :: 'u' :: rest'' =>
              match readHex4 rest'' with
              | some (v, rest3) =>
                if 0xDC00 ≤ v ∧ v < 0xE000 then readChars fuel (surrogateChar u v :: acc) rest3
                else readChars fuel ('�' :: acc) rest'
              | none => readChars fuel ('�' :: acc) rest'
            | _ => readChars fuel ('�' :: acc) rest'
          else if 0xDC00 ≤ u ∧ u < 0xE000 then readChars fuel ('�' :: acc) rest'
          else readChars fuel (Char.ofNat u :: acc) rest'
      | e :: rest =>
        match simpleEscape e with
        | some d => readChars fuel (d :: acc) rest
        | none => .error (.invalidEscape (bytesOf [c, e]))
    else if c.toNat < 0x20 then failAt (c :: cs) .inString
    else if c.toNat < 0x80 then readChars fuel (c :: acc) cs
    else
      let (d, k) := Utf8.decodeFront c.toNat.toUInt8 (bytesOf (cs.take 3))
      readChars fuel (d :: acc) (cs.drop k)

def readString (cs : List Char) : Except SyntaxError (String × List Char) := readChars (cs.length + 1) [] cs

def maxDepth : Nat := 10000

/-- Reads one value after optional blanks, inside `depth` open arrays and
objects, with `fuel` bounding the steps. -/
def readValue : Nat → Nat → List Char → Except SyntaxError (Json × List Char)
  | 0, _, _ => .error .unexpectedEnd
  | fuel + 1, depth, cs =>
    match skipBlanks cs with
    | [] => .error .unexpectedEnd
    | c :: rest =>
      if (c = '{' || c = '[') && depth ≥ maxDepth then .error .tooDeep
      else if c = '{' then readObject fuel (depth + 1) rest
      else if c = '[' then readArray fuel (depth + 1) rest
      else if c = '"' then do
        let (s, r) ← readString rest
        pure (.str s, r)
      else if c = '-' || c.isDigit then do
        let (n, r) ← readNumber (c :: rest)
        pure (.num n, r)
      else if c = 't' then do
        let (_, r) ← readWord "true" "rue".toList rest
        pure (.bool true, r)
      else if c = 'f' then do
        let (_, r) ← readWord "false" "alse".toList rest
        pure (.bool false, r)
      else if c = 'n' then do
        let (_, r) ← readWord "null" "ull".toList rest
        pure (.null, r)
      else failAt (c :: rest) .valueStart
where
  /-- Reads the members of an object after its opening brace. -/
  readObject : Nat → Nat → List Char → Except SyntaxError (Json × List Char)
  | 0, _, _ => .error .unexpectedEnd
  | fuel + 1, depth, cs =>
    match skipBlanks cs with
    | '}' :: rest => .ok (.obj [], rest)
    | rest => readMembers fuel depth [] rest
  /-- Reads members from a key on, collecting them in reverse. -/
  readMembers : Nat → Nat → List (String × Json) → List Char → Except SyntaxError (Json × List Char)
  | 0, _, _, _ => .error .unexpectedEnd
  | fuel + 1, depth, acc, cs =>
    match skipBlanks cs with
    | '"' :: rest => do
      let (key, rest') ← readString rest
      match skipBlanks rest' with
      | ':' :: rest'' => do
        let (v, rest3) ← readValue fuel depth rest''
        match skipBlanks rest3 with
        | ',' :: rest4 => readMembers fuel depth ((key, v) :: acc) rest4
        | '}' :: rest4 => .ok (.obj ((key, v) :: acc).reverse, rest4)
        | other => failAt other .afterMember
      | other => failAt other .afterKey
    | other => failAt other .keyStart
  /-- Reads the elements of an array after its opening bracket. -/
  readArray : Nat → Nat → List Char → Except SyntaxError (Json × List Char)
  | 0, _, _ => .error .unexpectedEnd
  | fuel + 1, depth, cs =>
    match skipBlanks cs with
    | ']' :: rest => .ok (.arr [], rest)
    | rest => readElements fuel depth [] rest
  /-- Reads elements from a value on, collecting them in reverse. -/
  readElements : Nat → Nat → List Json → List Char → Except SyntaxError (Json × List Char)
  | 0, _, _, _ => .error .unexpectedEnd
  | fuel + 1, depth, acc, cs => do
    let (v, rest) ← readValue fuel depth cs
    match skipBlanks rest with
    | ',' :: rest' => readElements fuel depth (v :: acc) rest'
    | ']' :: rest' => .ok (.arr (v :: acc).reverse, rest')
    | other => failAt other .afterElement

def parseBytes (bs : List UInt8) : Except SyntaxError Json := do
  let cs := bs.map fun b => Char.ofNat b.toNat
  let (v, rest) ← readValue (3 * cs.length + 3) 0 cs
  match skipBlanks rest with
  | [] => pure v
  | other => failAt other .afterTopValue

def parse (s : String) : Except SyntaxError Json := parseBytes (Utf8.encode s)

end Json
end JuryCaptions
