/-!
Bytes and text in UTF-8. Decoding is lenient: a byte that begins no
well-formed sequence stands for `U+FFFD` and decoding goes on. Programs that
work on bytes see byte text, one character below `U+0100` for each byte.
-/

namespace JuryCaptions
namespace Utf8

def encodeChar (c : Char) : List UInt8 :=
  let n := c.toNat
  if n < 0x80 then [n.toUInt8]
  else if n < 0x800 then [(0xC0 + n / 0x40).toUInt8, (0x80 + n % 0x40).toUInt8]
  else if n < 0x10000 then
    [(0xE0 + n / 0x1000).toUInt8, (0x80 + n / 0x40 % 0x40).toUInt8, (0x80 + n % 0x40).toUInt8]
  else
    [(0xF0 + n / 0x40000).toUInt8, (0x80 + n / 0x1000 % 0x40).toUInt8,
     (0x80 + n / 0x40 % 0x40).toUInt8, (0x80 + n % 0x40).toUInt8]

def encode (s : String) : List UInt8 := s.toList.flatMap encodeChar

def isContinuation (b : UInt8) : Bool := b.toNat / 0x40 = 2

def bits (b : UInt8) : Nat := b.toNat % 0x40

/-- The character of the sequence that begins with `b0` and how many bytes after
it it takes; a bad lead byte gives the replacement character and takes none. -/
def decodeFront (b0 : UInt8) (rest : List UInt8) : Char × Nat :=
  let n0 := b0.toNat
  if n0 < 0x80 then (Char.ofNat n0, 0)
  else if n0 < 0xC2 then ('�', 0)
  else if n0 < 0xE0 then
    match rest with
    | b1 :: _ => if isContinuation b1 then (Char.ofNat ((n0 - 0xC0) * 0x40 + bits b1), 1) else ('�', 0)
    | [] => ('�', 0)
  else if n0 < 0xF0 then
    match rest with
    | b1 :: b2 :: _ =>
      let v := (n0 - 0xE0) * 0x1000 + bits b1 * 0x40 + bits b2
      if isContinuation b1 && isContinuation b2 && v ≥ 0x800 && !(0xD800 ≤ v && v < 0xE000) then
        (Char.ofNat v, 2)
      else ('�', 0)
    | _ => ('�', 0)
  else if n0 < 0xF5 then
    match rest with
    | b1 :: b2 :: b3 :: _ =>
      let v := (n0 - 0xF0) * 0x40000 + bits b1 * 0x1000 + bits b2 * 0x40 + bits b3
      if isContinuation b1 && isContinuation b2 && isContinuation b3 && v ≥ 0x10000 && v < 0x110000 then
        (Char.ofNat v, 3)
      else ('�', 0)
    | _ => ('�', 0)
  else ('�', 0)

/-- The characters of some bytes, one replacement character for each byte that
begins no well-formed sequence. -/
def decodeChars : List UInt8 → List Char
  | [] => []
  | b :: bs => (decodeFront b bs).1 :: decodeChars (bs.drop (decodeFront b bs).2)
termination_by bs => bs.length
decreasing_by simp only [List.length_drop, List.length_cons]; omega

/-- The pieces of some bytes: each well-formed sequence as its character, and
each byte that begins none as itself. -/
def pieces : List UInt8 → List (Except UInt8 Char)
  | [] => []
  | b :: bs =>
    let (c, k) := decodeFront b bs
    (if c = '\uFFFD' ∧ k = 0 then .error b else .ok c) :: pieces (bs.drop k)
termination_by bs => bs.length
decreasing_by simp only [List.length_drop, List.length_cons]; omega

def decode (bs : List UInt8) : String := String.ofList (decodeChars bs)

/-- A text as byte text: one character for each byte of its UTF-8 form. -/
def asBytes (s : String) : String := String.ofList ((encode s).map fun b => Char.ofNat b.toNat)

/-- The bytes that byte text stands for; a character past `U+00FF` stands for
its own UTF-8 bytes. -/
def bytesOf (s : String) : List UInt8 :=
  s.toList.flatMap fun c => if c.toNat < 256 then [c.toNat.toUInt8] else encodeChar c

/-- The text that byte text spells, decoded as UTF-8. -/
def fromBytes (s : String) : String := decode (bytesOf s)

def hexByte (b : UInt8) : String :=
  let digit (n : Nat) : Char := if n < 10 then Char.ofNat (48 + n) else Char.ofNat (87 + n)
  String.ofList [digit (b.toNat / 16), digit (b.toNat % 16)]

def toHex (bs : List UInt8) : String := String.join (bs.map hexByte)

def hexDigit? (c : Char) : Option Nat :=
  if '0' ≤ c ∧ c ≤ '9' then some (c.toNat - 48)
  else if 'a' ≤ c ∧ c ≤ 'f' then some (c.toNat - 87)
  else if 'A' ≤ c ∧ c ≤ 'F' then some (c.toNat - 55)
  else none

def ofHexChars : List Char → Option (List UInt8)
  | [] => some []
  | hi :: lo :: rest => do
    let h ← hexDigit? hi
    let l ← hexDigit? lo
    let bs ← ofHexChars rest
    pure ((h * 16 + l).toUInt8 :: bs)
  | [_] => none

def ofHex? (s : String) : Option (List UInt8) := ofHexChars s.toList

end Utf8
end JuryCaptions
