/-!
Bytes in the letters of base 64 and base 32, padded with `=`, and read back group
by group, skipping newlines; a broken group gives its bytes before the fault.
-/

namespace JuryCaptions

inductive Radix where
  | base64
  | base32
  deriving BEq, Inhabited

namespace Radix

def alphabet : Radix → List Char
  | .base64 => "ABCDEFGHIJKLMNOPQRSTUVWXYZabcdefghijklmnopqrstuvwxyz0123456789+/".toList
  | .base32 => "ABCDEFGHIJKLMNOPQRSTUVWXYZ234567".toList

def bits : Radix → Nat
  | .base64 => 6
  | .base32 => 5

def groupBytes : Radix → Nat
  | .base64 => 3
  | .base32 => 5

def groupLetters : Radix → Nat
  | .base64 => 4
  | .base32 => 8

def value (r : Radix) (c : Char) : Option Nat := r.alphabet.idxOf? c

def isLetter (r : Radix) (c : Char) : Bool := (r.value c).isSome

/-- The letters of a group of at most `groupBytes` bytes, with its padding. -/
def encodeGroup (r : Radix) (bs : List Nat) : List Char :=
  let full := bs ++ List.replicate (r.groupBytes - bs.length) 0
  let v := full.foldl (fun n b => 256 * n + b) 0
  let letters := (8 * bs.length + r.bits - 1) / r.bits
  let mask := Nat.pow 2 r.bits
  let shown := (List.range letters).map fun j =>
    r.alphabet.getD (v / Nat.pow 2 (r.bits * (r.groupLetters - 1 - j)) % mask) 'A'
  shown ++ List.replicate (r.groupLetters - letters) '='

/-- The letters of bytes after those already written; the fuel bounds the
groups. -/
def encodeFrom (r : Radix) : Nat → List Nat → Array Char → Array Char
  | 0, _, acc => acc
  | _ + 1, [], acc => acc
  | f + 1, bs, acc => r.encodeFrom f (bs.drop r.groupBytes) (acc ++ (r.encodeGroup (bs.take r.groupBytes)).toArray)

def encode (r : Radix) (bs : List Nat) : List Char := (r.encodeFrom (bs.length + 1) bs #[]).toList

def at0 (r : Radix) (cs : List Char) (i : Nat) : Nat := (r.value (cs.getD i '=')).getD 0

def letterAt (r : Radix) (cs : List Char) (i : Nat) : Bool := r.isLetter (cs.getD i '=')

/-- Whether the places from `i` to `j` of a group all hold `=`. -/
def paddedFrom (cs : List Char) (i j : Nat) : Bool := (List.range (j - i)).all fun k => cs.getD (i + k) ' ' == '='

/-- Reads one group of base 64 from the front of `cs`, where `len` characters
are left: the bytes it gives and whether it is whole. -/
def decodeQuad (cs : List Char) (len : Nat) : List Nat × Bool :=
  let r := Radix.base64
  let v := r.at0 cs
  if len < 2 || !(r.letterAt cs 0 && r.letterAt cs 1) then ([], false)
  else
    let b1 := (v 0 * 4 + v 1 / 16) % 256
    if len == 2 then ([b1], false)
    else if cs.getD 2 ' ' == '=' then ([b1], len == 4 && cs.getD 3 ' ' == '=')
    else if !r.letterAt cs 2 then ([b1], false)
    else
      let b2 := (v 1 % 16 * 16 + v 2 / 4) % 256
      if len == 3 then ([b1, b2], false)
      else if cs.getD 3 ' ' == '=' then ([b1, b2], len == 4)
      else if !r.letterAt cs 3 then ([b1, b2], false)
      else ([b1, b2, (v 2 % 4 * 64 + v 3) % 256], true)

/-- Reads one group of base 32 from the front of `cs`, where `len` characters
are left: the bytes it gives and whether it is whole. -/
def decodeOctet (cs : List Char) (len : Nat) : List Nat × Bool :=
  let r := Radix.base32
  let v := r.at0 cs
  let ok := r.letterAt cs
  let pad (i : Nat) : Bool := cs.getD i ' ' == '='
  if len < 8 || !(ok 0 && ok 1) then ([], false)
  else
    let b1 := (v 0 * 8 + v 1 / 4) % 256
    if pad 2 then ([b1], paddedFrom cs 3 8)
    else if !(ok 2 && ok 3) then ([b1], false)
    else
      let b2 := (v 1 % 4 * 64 + v 2 * 2 + v 3 / 16) % 256
      if pad 4 then ([b1, b2], paddedFrom cs 5 8)
      else if !ok 4 then ([b1, b2], false)
      else
        let b3 := (v 3 % 16 * 16 + v 4 / 2) % 256
        if pad 5 then ([b1, b2, b3], paddedFrom cs 6 8)
        else if !(ok 5 && ok 6) then ([b1, b2, b3], false)
        else
          let b4 := (v 4 % 2 * 128 + v 5 * 4 + v 6 / 8) % 256
          if pad 7 then ([b1, b2, b3, b4], true)
          else if !ok 7 then ([b1, b2, b3, b4], false)
          else ([b1, b2, b3, b4, (v 6 % 8 * 32 + v 7) % 256], true)

/-- Reads one group from the front of `cs`, where `len` characters are left. -/
def decodeGroup (r : Radix) (cs : List Char) (len : Nat) : List Nat × Bool :=
  match r with
  | .base64 => decodeQuad cs len
  | .base32 => decodeOctet cs len

/-- Reads whole groups straight from the text while they read, each judged
with all the text left, `len` characters; what is left, its length and the
bytes. -/
def straight (r : Radix) : Nat → List Char → Nat → Array Nat → List Char × Nat × Array Nat
  | 0, cs, len, out => (cs, len, out)
  | f + 1, cs, len, out =>
    let (bytes, ok) := r.decodeGroup cs len
    if ok then r.straight f (cs.drop r.groupLetters) (len - r.groupLetters) (out ++ bytes.toArray)
    else (cs, len, out)

/-- Moves characters other than newlines into a group under way until it is
full or the text ends: the group, what is left and how many characters were
taken. -/
def fill (size : Nat) : List Char → List Char → Nat → List Char × List Char × Nat
  | buf, [], taken => (buf, [], taken)
  | buf, c :: rest, taken =>
    if buf.length ≥ size then (buf, c :: rest, taken)
    else if c == '\n' then fill size buf rest (taken + 1)
    else fill size (buf ++ [c]) rest (taken + 1)

/-- Where reading stands: the bytes so far, the group under way and whether
reading went well. -/
structure DecodeState where
  out : Array Nat := #[]
  group : List Char := []
  ok : Bool := true

/-- Reads a text of `len` characters in groups, newlines skipped, a group put
together across newlines or kept under way when the text ends. -/
def decodeFrom (r : Radix) : Nat → List Char → Nat → DecodeState → DecodeState
  | 0, _, _, s => s
  | f + 1, cs, len, s =>
    let (cs, len, out) := r.straight (len + 1) cs len s.out
    let s := { s with out }
    match cs with
    | [] => s
    | '\n' :: rest => r.decodeFrom f rest (len - 1) s
    | _ =>
      let size := r.groupLetters
      let group := if s.group.length == size then [] else s.group
      if group.isEmpty && len ≥ size && !(cs.take size).contains '\n' then
        let (bytes, ok) := r.decodeGroup cs size
        if ok then r.decodeFrom f (cs.drop size) (len - size) { s with out := s.out ++ bytes.toArray, group := [] }
        else { s with out := s.out ++ bytes.toArray, ok := false }
      else
        let (group, rest, taken) := fill size group cs 0
        if group.length < size then { s with group }
        else
          let (bytes, ok) := r.decodeGroup group size
          if ok then r.decodeFrom f rest (len - taken) { s with out := s.out ++ bytes.toArray, group }
          else { s with out := s.out ++ bytes.toArray, group, ok := false }

/-- The bytes a text gives and whether all of it read: the text, then what is
left of a group under way. -/
def decode (r : Radix) (text : List Char) : List Nat × Bool :=
  let s := r.decodeFrom (text.length + 1) text text.length {}
  if !s.ok then (s.out.toList, false)
  else if s.group.isEmpty || s.group.length == r.groupLetters then (s.out.toList, true)
  else
    let (bytes, ok) := r.decodeGroup s.group s.group.length
    (s.out.toList ++ bytes, ok)

end Radix
end JuryCaptions
