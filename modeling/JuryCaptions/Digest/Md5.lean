import JuryCaptions.Digest.Bytes
/-!
The MD5 message digest: 64-byte blocks of sixteen little-endian words, four
words of state through sixty-four rounds, each adding `⌊2^32 · |sin (i + 1)|⌋`
and rotating by a fixed amount.
-/

namespace JuryCaptions
namespace Digest

/-- The constants of the rounds, the integer part of `2^32 · |sin (i + 1)|`. -/
def md5Sines : Array UInt32 :=
  #[0xd76aa478, 0xe8c7b756, 0x242070db, 0xc1bdceee, 0xf57c0faf, 0x4787c62a, 0xa8304613, 0xfd469501,
    0x698098d8, 0x8b44f7af, 0xffff5bb1, 0x895cd7be, 0x6b901122, 0xfd987193, 0xa679438e, 0x49b40821,
    0xf61e2562, 0xc040b340, 0x265e5a51, 0xe9b6c7aa, 0xd62f105d, 0x02441453, 0xd8a1e681, 0xe7d3fbc8,
    0x21e1cde6, 0xc33707d6, 0xf4d50d87, 0x455a14ed, 0xa9e3e905, 0xfcefa3f8, 0x676f02d9, 0x8d2a4c8a,
    0xfffa3942, 0x8771f681, 0x6d9d6122, 0xfde5380c, 0xa4beea44, 0x4bdecfa9, 0xf6bb4b60, 0xbebfbc70,
    0x289b7ec6, 0xeaa127fa, 0xd4ef3085, 0x04881d05, 0xd9d4d039, 0xe6db99e5, 0x1fa27cf8, 0xc4ac5665,
    0xf4292244, 0x432aff97, 0xab9423a7, 0xfc93a039, 0x655b59c3, 0x8f0ccc92, 0xffeff47d, 0x85845dd1,
    0x6fa87e4f, 0xfe2ce6e0, 0xa3014314, 0x4e0811a1, 0xf7537e82, 0xbd3af235, 0x2ad7d2bb, 0xeb86d391]

def md5Shifts : Array UInt32 :=
  #[7, 12, 17, 22, 5, 9, 14, 20, 4, 11, 16, 23, 6, 10, 15, 21]

structure Md5State where
  a : UInt32
  b : UInt32
  c : UInt32
  d : UInt32

def Md5State.start : Md5State := ⟨0x67452301, 0xefcdab89, 0x98badcfe, 0x10325476⟩

/-- One round: the function of its group on three words and the word of the
block it visits, added to the fourth and rotated. -/
def md5Round (m : Array UInt32) (s : Md5State) (i : Nat) : Md5State :=
  let (f, g) :=
    if i < 16 then ((s.b &&& s.c) ||| (~~~s.b &&& s.d), i)
    else if i < 32 then ((s.d &&& s.b) ||| (~~~s.d &&& s.c), (5 * i + 1) % 16)
    else if i < 48 then (s.b ^^^ s.c ^^^ s.d, (3 * i + 5) % 16)
    else (s.c ^^^ (s.b ||| ~~~s.d), 7 * i % 16)
  let f := f + s.a + md5Sines.getD i 0 + m.getD g 0
  let shift := md5Shifts.getD (4 * (i / 16) + i % 4) 0
  ⟨s.d, s.b + rotl32 f shift, s.b, s.c⟩

def md5Block (msg : ByteArray) (h : Md5State) (off : Nat) : Md5State :=
  let m := (Array.range 16).map fun i => word32Little msg (off + 4 * i)
  let s := (List.range 64).foldl (md5Round m) h
  ⟨h.a + s.a, h.b + s.b, h.c + s.c, h.d + s.d⟩

def md5 (msg : ByteArray) : List UInt8 :=
  let padded := pad msg 64 8 false
  let s := eachBlock padded 64 (md5Block padded) Md5State.start
  ofWords32Little [s.a, s.b, s.c, s.d]

end Digest
end JuryCaptions
