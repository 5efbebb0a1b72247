/-!
The data of a two-dimensional code as mode segments: numeric, alphanumeric and
byte. The content is cut into maximal runs of each byte's narrowest mode, and
a segment swallows the runs after it while that is shorter; a count too large
for its width fails.
-/

namespace JuryCaptions
namespace Qr

inductive Mode where
  | numeric
  | alphanumeric
  | byte
  deriving DecidableEq, Repr, Inhabited

namespace Mode

def rank : Mode → Nat
  | .numeric => 0
  | .alphanumeric => 1
  | .byte => 2

def indicator : Mode → Nat
  | .numeric => 1
  | .alphanumeric => 2
  | .byte => 4

def wider (a b : Mode) : Mode := if a.rank ≥ b.rank then a else b

end Mode

/-- The value of an alphanumeric character: digits, capitals, then ` $%*+-./:`. -/
def alphanumericValue (b : UInt8) : Option Nat :=
  if 0x30 ≤ b ∧ b ≤ 0x39 then some (b.toNat - 0x30)
  else if 0x41 ≤ b ∧ b ≤ 0x5a then some (b.toNat - 0x41 + 10)
  else
    match b.toNat with
    | 0x20 => some 36 | 0x24 => some 37 | 0x25 => some 38 | 0x2a => some 39
    | 0x2b => some 40 | 0x2d => some 41 | 0x2e => some 42 | 0x2f => some 43
    | 0x3a => some 44 | _ => none

def Mode.ofByte (b : UInt8) : Mode :=
  if 0x30 ≤ b ∧ b ≤ 0x39 then .numeric
  else if (alphanumericValue b).isSome then .alphanumeric
  else .byte

/-- The size classes of symbols, which fix the widths of character counts:
versions 1 to 9, 10 to 26 and 27 to 40. -/
inductive SizeClass where
  | small
  | medium
  | large
  deriving DecidableEq, Repr, Inhabited

namespace SizeClass

def all : List SizeClass := [.small, .medium, .large]

def versions : SizeClass → Nat × Nat
  | .small => (1, 9)
  | .medium => (10, 26)
  | .large => (27, 40)

def countBits : SizeClass → Mode → Nat
  | .small, .numeric => 10
  | .small, .alphanumeric => 9
  | .small, .byte => 8
  | .medium, .numeric => 12
  | .medium, .alphanumeric => 11
  | .medium, .byte => 16
  | .large, .numeric => 14
  | .large, .alphanumeric => 13
  | .large, .byte => 16

end SizeClass

def countTooLarge : String := "length too long to be represented"

/-- The length in bits of a segment of `n` characters in a mode. -/
def encodedLength (c : SizeClass) (m : Mode) (n : Nat) : Except String Nat :=
  let width := c.countBits m
  if n > Nat.pow 2 width - 1 then .error countTooLarge
  else
    let body := match m with
      | .numeric => 10 * (n / 3) + (if n % 3 = 0 then 0 else 1 + 3 * (n % 3))
      | .alphanumeric => 11 * (n / 2) + 6 * (n % 2)
      | .byte => 8 * n
    .ok (4 + width + body)

structure Segment where
  mode : Mode
  bytes : List UInt8
  deriving Repr, Inhabited

def runs : List UInt8 → List Segment
  | [] => []
  | b :: rest =>
    match runs rest with
    | s :: more => if s.mode = Mode.ofByte b then { s with bytes := b :: s.bytes } :: more
      else ⟨Mode.ofByte b, [b]⟩ :: s :: more
    | [] => [⟨Mode.ofByte b, [b]⟩]

/-- Swallows the runs after a segment of mode `m` holding `acc`; the bytes held
at the end and the number of runs swallowed. -/
def absorb (c : SizeClass) (m : Mode) (acc : List UInt8) :
    List Segment → Except String (List UInt8 × Nat)
  | [] => .ok (acc, 0)
  | s :: rest =>
    if s.mode.rank > m.rank then .ok (acc, 0)
    else do
      let joint ← encodedLength c m (acc.length + s.bytes.length)
      let alone ← encodedLength c m acc.length
      let next ← encodedLength c s.mode s.bytes.length
      if joint < alone + next then
        let (bytes, k) ← absorb c m (acc ++ s.bytes) rest
        pure (bytes, k + 1)
      else pure (acc, 0)

def coalesce (c : SizeClass) (segs : List Segment) : Except String (List Segment) :=
  match segs with
  | [] => .ok []
  | s :: rest => do
    let (bytes, k) ← absorb c s.mode s.bytes rest
    let more ← coalesce c (rest.drop k)
    pure (⟨s.mode, bytes⟩ :: more)
termination_by segs.length
decreasing_by simp only [List.length_drop, List.length_cons]; omega

/-- The `width` low bits of a number, highest first. -/
def bitsOf (value width : Nat) : List Bool :=
  (List.range width).reverse.map value.testBit

def numericBits : List Nat → List Bool
  | a :: b :: d :: rest => bitsOf (100 * a + 10 * b + d) 10 ++ numericBits rest
  | [a, b] => bitsOf (10 * a + b) 7
  | [a] => bitsOf a 4
  | [] => []

def alphanumericBits : List Nat → List Bool
  | a :: b :: rest => bitsOf (45 * a + b) 11 ++ alphanumericBits rest
  | [a] => bitsOf a 6
  | [] => []

/-- The bits of a segment: indicator, count and data. -/
def Segment.bits (c : SizeClass) (s : Segment) : List Bool :=
  bitsOf s.mode.indicator 4 ++ bitsOf s.bytes.length (c.countBits s.mode) ++
    match s.mode with
    | .numeric => numericBits (s.bytes.map fun b => b.toNat - 0x30)
    | .alphanumeric => alphanumericBits (s.bytes.map fun b => (alphanumericValue b).getD 0)
    | .byte => s.bytes.flatMap fun b => bitsOf b.toNat 8

def segmentsOf (c : SizeClass) (bytes : List UInt8) : Except String (List Segment) := do
  if bytes.isEmpty then throw "no data to encode"
  let widest := bytes.foldl (fun m b => m.wider (Mode.ofByte b)) .numeric
  let joined ← coalesce c (runs bytes)
  let joinedLength ← joined.foldlM (fun n s => (n + ·) <$> encodedLength c s.mode s.bytes.length) 0
  let singleLength ← encodedLength c widest bytes.length
  pure (if singleLength ≤ joinedLength then [⟨widest, bytes⟩] else joined)

def encodeBytes (c : SizeClass) (bytes : List UInt8) : Except String (List Bool) :=
  (segmentsOf c bytes).map fun segs => segs.flatMap (Segment.bits c)

end Qr
end JuryCaptions
