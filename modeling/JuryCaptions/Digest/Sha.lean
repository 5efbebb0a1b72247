import JuryCaptions.Digest.Bytes
/-!
The SHA digests: SHA-1, and of SHA-2 SHA-224 and SHA-256 on 32-bit words and
SHA-384 and SHA-512 on 64-bit words. Blocks are read as big-endian words; the
shorter SHA-2 digests start from other words and keep a prefix of the state.
-/

namespace JuryCaptions
namespace Digest

/-! ## SHA-1 -/

structure Sha1State where
  a : UInt32
  b : UInt32
  c : UInt32
  d : UInt32
  e : UInt32

/-- The schedule of a block of SHA-1: its sixteen words, then each word the
xor of four before it rotated by one. -/
def sha1Schedule (msg : ByteArray) (off : Nat) : Array UInt32 :=
  let w := (Array.range 16).map fun i => word32Big msg (off + 4 * i)
  (List.range 64).foldl (fun (w : Array UInt32) i =>
    let t := i + 16
    w.push (rotl32 (w.getD (t - 3) 0 ^^^ w.getD (t - 8) 0 ^^^ w.getD (t - 14) 0 ^^^ w.getD (t - 16) 0) 1)) w

def sha1Round (w : Array UInt32) (s : Sha1State) (t : Nat) : Sha1State :=
  let (f, k) : UInt32 × UInt32 :=
    if t < 20 then ((s.b &&& s.c) ||| (~~~s.b &&& s.d), 0x5a827999)
    else if t < 40 then (s.b ^^^ s.c ^^^ s.d, 0x6ed9eba1)
    else if t < 60 then ((s.b &&& s.c) ||| (s.b &&& s.d) ||| (s.c &&& s.d), 0x8f1bbcdc)
    else (s.b ^^^ s.c ^^^ s.d, 0xca62c1d6)
  let temp := rotl32 s.a 5 + f + s.e + k + w.getD t 0
  ⟨temp, s.a, rotl32 s.b 30, s.c, s.d⟩

def sha1Block (msg : ByteArray) (h : Sha1State) (off : Nat) : Sha1State :=
  let s := (List.range 80).foldl (sha1Round (sha1Schedule msg off)) h
  ⟨h.a + s.a, h.b + s.b, h.c + s.c, h.d + s.d, h.e + s.e⟩

def sha1 (msg : ByteArray) : List UInt8 :=
  let padded := pad msg 64 8 true
  let s := eachBlock padded 64 (sha1Block padded) ⟨0x67452301, 0xefcdab89, 0x98badcfe, 0x10325476, 0xc3d2e1f0⟩
  ofWords32Big [s.a, s.b, s.c, s.d, s.e]

/-! ## SHA-2 -/

structure Sha2State (α : Type) where
  a : α
  b : α
  c : α
  d : α
  e : α
  f : α
  g : α
  h : α

namespace Sha2State

def toList {α : Type} (s : Sha2State α) : List α := [s.a, s.b, s.c, s.d, s.e, s.f, s.g, s.h]

def ofList {α : Type} [Inhabited α] (ws : List α) : Sha2State α :=
  let w (i : Nat) : α := ws.getD i default
  ⟨w 0, w 1, w 2, w 3, w 4, w 5, w 6, w 7⟩

def add {α : Type} [Add α] (x y : Sha2State α) : Sha2State α :=
  ⟨x.a + y.a, x.b + y.b, x.c + y.c, x.d + y.d, x.e + y.e, x.f + y.f, x.g + y.g, x.h + y.h⟩

/-- One round, given the sum of its `Σ₁`, choice, constant and word, and its
`Σ₀` and majority. -/
def shift {α : Type} [Add α] (s : Sha2State α) (t1 t2 : α) : Sha2State α :=
  ⟨t1 + t2, s.a, s.b, s.c, s.d + t1, s.e, s.f, s.g⟩

end Sha2State

/-- The constants of the rounds of the 64-bit hashes. -/
def sha512Constants : Array UInt64 :=
  #[0x428a2f98d728ae22, 0x7137449123ef65cd, 0xb5c0fbcfec4d3b2f, 0xe9b5dba58189dbbc, 0x3956c25bf348b538,
    0x59f111f1b605d019, 0x923f82a4af194f9b, 0xab1c5ed5da6d8118, 0xd807aa98a3030242, 0x12835b0145706fbe,
    0x243185be4ee4b28c, 0x550c7dc3d5ffb4e2, 0x72be5d74f27b896f, 0x80deb1fe3b1696b1, 0x9bdc06a725c71235,
    0xc19bf174cf692694, 0xe49b69c19ef14ad2, 0xefbe4786384f25e3, 0x0fc19dc68b8cd5b5, 0x240ca1cc77ac9c65,
    0x2de92c6f592b0275, 0x4a7484aa6ea6e483, 0x5cb0a9dcbd41fbd4, 0x76f988da831153b5, 0x983e5152ee66dfab,
    0xa831c66d2db43210, 0xb00327c898fb213f, 0xbf597fc7beef0ee4, 0xc6e00bf33da88fc2, 0xd5a79147930aa725,
    0x06ca6351e003826f, 0x142929670a0e6e70, 0x27b70a8546d22ffc, 0x2e1b21385c26c926, 0x4d2c6dfc5ac42aed,
    0x53380d139d95b3df, 0x650a73548baf63de, 0x766a0abb3c77b2a8, 0x81c2c92e47edaee6, 0x92722c851482353b,
    0xa2bfe8a14cf10364, 0xa81a664bbc423001, 0xc24b8b70d0f89791, 0xc76c51a30654be30, 0xd192e819d6ef5218,
    0xd69906245565a910, 0xf40e35855771202a, 0x106aa07032bbd1b8, 0x19a4c116b8d2d0c8, 0x1e376c085141ab53,
    0x2748774cdf8eeb99, 0x34b0bcb5e19b48a8, 0x391c0cb3c5c95a63, 0x4ed8aa4ae3418acb, 0x5b9cca4f7763e373,
    0x682e6ff3d6b2b8a3, 0x748f82ee5defb2fc, 0x78a5636f43172f60, 0x84c87814a1f0ab72, 0x8cc702081a6439ec,
    0x90befffa23631e28, 0xa4506cebde82bde9, 0xbef9a3f7b2c67915, 0xc67178f2e372532b, 0xca273eceea26619c,
    0xd186b8c721c0c207, 0xeada7dd6cde0eb1e, 0xf57d4f7fee6ed178, 0x06f067aa72176fba, 0x0a637dc5a2c898a6,
    0x113f9804bef90dae, 0x1b710b35131c471b, 0x28db77f523047d84, 0x32caab7b40c72493, 0x3c9ebe0a15c9bebc,
    0x431d67c49c100d4c, 0x4cc5d4becb3e42b6, 0x597f299cfc657e2a, 0x5fcb6fab3ad6faec, 0x6c44198c4a475817]

/-- The constants of the rounds of the 32-bit hashes: the first 32 bits of the
first sixty-four of the 64-bit ones. -/
def sha256Constants : Array UInt32 := (sha512Constants.extract 0 64).map fun (k : UInt64) => (k >>> 32).toUInt32

/-- The state after a block of a 32-bit hash at an offset of a padded message. -/
def sha256Block (msg : ByteArray) (h : Sha2State UInt32) (off : Nat) : Sha2State UInt32 :=
  let w := (Array.range 16).map fun i => word32Big msg (off + 4 * i)
  let w := (List.range 48).foldl (fun (w : Array UInt32) i =>
    let t := i + 16
    let x := w.getD (t - 15) 0
    let y := w.getD (t - 2) 0
    let s0 := rotr32 x 7 ^^^ rotr32 x 18 ^^^ (x >>> 3)
    let s1 := rotr32 y 17 ^^^ rotr32 y 19 ^^^ (y >>> 10)
    w.push (w.getD (t - 16) 0 + s0 + w.getD (t - 7) 0 + s1)) w
  let s := (List.range 64).foldl (fun (s : Sha2State UInt32) t =>
    let sum1 := rotr32 s.e 6 ^^^ rotr32 s.e 11 ^^^ rotr32 s.e 25
    let choice := (s.e &&& s.f) ^^^ (~~~s.e &&& s.g)
    let t1 := s.h + sum1 + choice + sha256Constants.getD t 0 + w.getD t 0
    let sum0 := rotr32 s.a 2 ^^^ rotr32 s.a 13 ^^^ rotr32 s.a 22
    let majority := (s.a &&& s.b) ^^^ (s.a &&& s.c) ^^^ (s.b &&& s.c)
    s.shift t1 (sum0 + majority)) h
  h.add s

/-- The state after a block of a 64-bit hash at an offset of a padded message. -/
def sha512Block (msg : ByteArray) (h : Sha2State UInt64) (off : Nat) : Sha2State UInt64 :=
  let w := (Array.range 16).map fun i => word64Big msg (off + 8 * i)
  let w := (List.range 64).foldl (fun (w : Array UInt64) i =>
    let t := i + 16
    let x := w.getD (t - 15) 0
    let y := w.getD (t - 2) 0
    let s0 := rotr64 x 1 ^^^ rotr64 x 8 ^^^ (x >>> 7)
    let s1 := rotr64 y 19 ^^^ rotr64 y 61 ^^^ (y >>> 6)
    w.push (w.getD (t - 16) 0 + s0 + w.getD (t - 7) 0 + s1)) w
  let s := (List.range 80).foldl (fun (s : Sha2State UInt64) t =>
    let sum1 := rotr64 s.e 14 ^^^ rotr64 s.e 18 ^^^ rotr64 s.e 41
    let choice := (s.e &&& s.f) ^^^ (~~~s.e &&& s.g)
    let t1 := s.h + sum1 + choice + sha512Constants.getD t 0 + w.getD t 0
    let sum0 := rotr64 s.a 28 ^^^ rotr64 s.a 34 ^^^ rotr64 s.a 39
    let majority := (s.a &&& s.b) ^^^ (s.a &&& s.c) ^^^ (s.b &&& s.c)
    s.shift t1 (sum0 + majority)) h
  h.add s

/-- A 32-bit hash of SHA-2 from its first words, keeping `words` of the state. -/
def sha2Short (start : List UInt32) (words : Nat) (msg : ByteArray) : List UInt8 :=
  let padded := pad msg 64 8 true
  let s := eachBlock padded 64 (sha256Block padded) (Sha2State.ofList start)
  ofWords32Big (s.toList.take words)

/-- A 64-bit hash of SHA-2 from its first words, keeping `words` of the state. -/
def sha2Long (start : List UInt64) (words : Nat) (msg : ByteArray) : List UInt8 :=
  let padded := pad msg 128 16 true
  let s := eachBlock padded 128 (sha512Block padded) (Sha2State.ofList start)
  ofWords64Big (s.toList.take words)

/-- The first words of SHA-512; SHA-256 starts from their first 32 bits. -/
def sha512Start : List UInt64 :=
  [0x6a09e667f3bcc908, 0xbb67ae8584caa73b, 0x3c6ef372fe94f82b, 0xa54ff53a5f1d36f1,
    0x510e527fade682d1, 0x9b05688c2b3e6c1f, 0x1f83d9abfb41bd6b, 0x5be0cd19137e2179]

/-- The first words of SHA-384; SHA-224 starts from their last 32 bits. -/
def sha384Start : List UInt64 :=
  [0xcbbb9d5dc1059ed8, 0x629a292a367cd507, 0x9159015a3070dd17, 0x152fecd8f70e5939,
    0x67332667ffc00b31, 0x8eb44a8768581511, 0xdb0c2e0d64f98fa7, 0x47b5481dbefa4fa4]

/-- The SHA-256 digest of a message: thirty-two bytes. -/
def sha256 : ByteArray → List UInt8 := sha2Short (sha512Start.map fun (w : UInt64) => (w >>> 32).toUInt32) 8

/-- The SHA-224 digest of a message: twenty-eight bytes. -/
def sha224 : ByteArray → List UInt8 := sha2Short (sha384Start.map UInt64.toUInt32) 7

/-- The SHA-512 digest of a message: sixty-four bytes. -/
def sha512 : ByteArray → List UInt8 := sha2Long sha512Start 8

/-- The SHA-384 digest of a message: forty-eight bytes. -/
def sha384 : ByteArray → List UInt8 := sha2Long sha384Start 6

end Digest
end JuryCaptions
