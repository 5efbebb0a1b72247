import JuryCaptions.Qr.Segment
import JuryCaptions.Qr.Correction
import JuryCaptions.Qr.Matrix
import JuryCaptions.Qr.Penalty
/-!
A two-dimensional code of some text at the lowest error-correction level: the
smallest version holding the bytes, padded with `0xec` and `0x11`, blocks
interleaved with their correction words, and the first mask of least penalty.
Empty text and text no version holds fail.
-/

namespace JuryCaptions
namespace Qr

structure Code where
  version : Nat
  mask : Nat
  /-- The width of the square in modules, without the quiet zone. -/
  side : Nat
  /-- The modules, dark or not, row by row. -/
  modules : Array Bool
  deriving Inhabited

def tooLong : String := "content too long to encode"

/-- The data bits and version for some bytes: the first size class that has a
version large enough. -/
def chooseVersion (bytes : List UInt8) : Except String (Nat × List Bool) :=
  let step (acc : Option String × Option (Nat × List Bool)) (c : SizeClass) :=
    match acc with
    | (_, some found) => (none, some found)
    | _ =>
      match encodeBytes c bytes with
      | .error e => (some e, none)
      | .ok bits =>
        match smallestVersion c.versions.1 c.versions.2 bits.length with
        | some v => (none, some (v, bits))
        | none => (none, none)
  match SizeClass.all.foldl step (none, none) with
  | (_, some found) => .ok found
  | (some e, none) => .error e
  | (none, none) => .error tooLong

/-- Closes data bits to fill a capacity: terminator, zeros to a whole word, then
pad words. -/
def padBits (capacity : Nat) (bits : List Bool) : List Bool :=
  let bits := bits ++ List.replicate (min 4 (capacity - bits.length)) false
  let bits := if bits.length = capacity then bits
    else bits ++ List.replicate ((8 - bits.length % 8) % 8) false
  let pads := (capacity - bits.length) / 8
  bits ++ (List.range pads).flatMap fun i => bitsOf (if i % 2 = 0 then 0xec else 0x11) 8

def wordsOf (bits : List Bool) : List Nat :=
  if bits.length < 8 then []
  else (bits.take 8).foldl (fun a b => 2 * a + (if b then 1 else 0)) 0 :: wordsOf (bits.drop 8)
termination_by bits.length
decreasing_by simp only [List.length_drop]; omega

def cutInto {α : Type} : List Nat → List α → List (List α)
  | [], _ => []
  | k :: ks, xs => xs.take k :: cutInto ks (xs.drop k)

/-- Reads blocks column by column: the first element of each, then the second. -/
def interleave (blocks : List (List Nat)) : List Nat :=
  let longest := (blocks.map List.length).foldl max 0
  (List.range longest).flatMap fun i => blocks.filterMap (·[i]?)

/-- The bits of the codewords of a version, interleaved, with the remainder bits. -/
def codewordBits (v : Nat) (data : List Bool) : List Bool :=
  let layout := layoutOf v
  let blocks := cutInto layout.blockLengths (wordsOf (padBits layout.dataBits data))
  let correction := blocks.map (Correction.words layout.correctionWords)
  (interleave blocks ++ interleave correction).flatMap (bitsOf · 8) ++
    List.replicate (remainderBits v) false

def masked (v mask : Nat) (bits : List Bool) : Array Bool :=
  ((Matrix.functionPatterns v mask).placeData mask bits).modules

def Code.ofString (text : String) : Except String Code := do
  let (v, data) ← chooseVersion text.toUTF8.toList
  let bits := codewordBits v data
  let n := sideOf v
  let scored := (List.range 8).map fun mask =>
    let cells := masked v mask bits
    (mask, cells, Penalty.score cells n)
  let best := scored.foldl (fun (b : Option (Nat × Array Bool × Nat)) c =>
    match b with
    | some b => if c.2.2 < b.2.2 then some c else some b
    | none => some c) none
  match best with
  | some (mask, cells, _) => pure { version := v, mask := mask, side := n, modules := cells }
  | none => pure default

end Qr
end JuryCaptions
