/-!
Bytes for the message digests: a text as bytes, the shared padding, words of a
block and the hexadecimal of a digest.

Padding is a byte `0x80`, zeros, and the message length in bits in the last
eight bytes of a 64-byte block, or sixteen of a 128-byte one, in the hash's
byte order.
-/

namespace JuryCaptions
namespace Digest

def bytesOf (s : String) : ByteArray := ⟨s.toList.toArray.map fun c => c.toNat.toUInt8⟩

def byteAt (b : ByteArray) (i : Nat) : UInt8 := b[i]?.getD 0

/-- The `count` bytes of a number, the most significant first. -/
def bigEndian (n count : Nat) : List UInt8 :=
  (List.range count).reverse.map fun i => (n / Nat.pow 256 i % 256).toUInt8

/-- A message padded to whole blocks of `block` bytes, its length in bits in
the last `field` bytes, big-endian or not. -/
def pad (msg : ByteArray) (block field : Nat) (big : Bool) : ByteArray :=
  let len := msg.size
  -- zeros after the byte 0x80 so that the length field ends a block
  let zeros := (2 * block - (len + 1 + field) % block) % block
  let lengthBytes := bigEndian (8 * len) field
  let tail := [0x80] ++ List.replicate zeros 0 ++ (if big then lengthBytes else lengthBytes.reverse)
  msg ++ ⟨tail.toArray⟩

/-- The 32-bit word at a position, the most significant byte first. -/
def word32Big (b : ByteArray) (i : Nat) : UInt32 :=
  ((byteAt b i).toUInt32 <<< 24) ||| ((byteAt b (i + 1)).toUInt32 <<< 16) |||
    ((byteAt b (i + 2)).toUInt32 <<< 8) ||| (byteAt b (i + 3)).toUInt32

/-- The 32-bit word at a position, the least significant byte first. -/
def word32Little (b : ByteArray) (i : Nat) : UInt32 :=
  ((byteAt b (i + 3)).toUInt32 <<< 24) ||| ((byteAt b (i + 2)).toUInt32 <<< 16) |||
    ((byteAt b (i + 1)).toUInt32 <<< 8) ||| (byteAt b i).toUInt32

/-- The 64-bit word at a position, the most significant byte first. -/
def word64Big (b : ByteArray) (i : Nat) : UInt64 :=
  ((word32Big b i).toUInt64 <<< 32) ||| (word32Big b (i + 4)).toUInt64

/-- The bytes of 32-bit words, each most significant byte first. -/
def ofWords32Big (ws : List UInt32) : List UInt8 :=
  ws.flatMap fun (w : UInt32) => [(w >>> 24).toUInt8, (w >>> 16).toUInt8, (w >>> 8).toUInt8, w.toUInt8]

/-- The bytes of 32-bit words, each least significant byte first. -/
def ofWords32Little (ws : List UInt32) : List UInt8 :=
  ws.flatMap fun (w : UInt32) => [w.toUInt8, (w >>> 8).toUInt8, (w >>> 16).toUInt8, (w >>> 24).toUInt8]

/-- The bytes of 64-bit words, each most significant byte first. -/
def ofWords64Big (ws : List UInt64) : List UInt8 :=
  ws.flatMap fun (w : UInt64) => ofWords32Big [(w >>> 32).toUInt32, w.toUInt32]

def rotl32 (x : UInt32) (n : UInt32) : UInt32 := (x <<< n) ||| (x >>> (32 - n))

def rotr32 (x : UInt32) (n : UInt32) : UInt32 := (x >>> n) ||| (x <<< (32 - n))

def rotr64 (x : UInt64) (n : UInt64) : UInt64 := (x >>> n) ||| (x <<< (64 - n))

def hexDigit (n : Nat) : Char := if n < 10 then Char.ofNat (48 + n) else Char.ofNat (87 + n)

def hex (bs : List UInt8) : String :=
  String.ofList (bs.flatMap fun b => [hexDigit (b.toNat / 16), hexDigit (b.toNat % 16)])

def eachBlock {σ : Type} (msg : ByteArray) (block : Nat) (step : σ → Nat → σ) (init : σ) : σ :=
  (List.range (msg.size / block)).foldl (fun s k => step s (k * block)) init

end Digest
end JuryCaptions
