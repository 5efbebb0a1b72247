import JuryCaptions.Digest.Bytes
/-!
The checksums of `cksum` and `sum`.

`cksum` divides the message and its length in least bytes, least significant
first, by `0x04C11DB7` and complements the remainder. `sum` is sixteen bits:
BSD rotates right before adding each byte, System V adds in 32 bits and folds
twice.
-/

namespace JuryCaptions
namespace Digest

/-- The remainder of a byte, as the top byte of a word, divided by the
polynomial. -/
def crcEntry (i : Nat) : UInt32 :=
  (List.range 8).foldl (fun (c : UInt32) _ =>
    if c &&& 0x80000000 != 0 then (c <<< 1) ^^^ 0x04c11db7 else c <<< 1) (i.toUInt32 <<< 24)

def crcTable : Array UInt32 := (Array.range 256).map crcEntry

def crcStep (crc : UInt32) (b : UInt8) : UInt32 :=
  (crc <<< 8) ^^^ crcTable.getD ((crc >>> 24) ^^^ b.toUInt32).toNat 0

def lengthBytes (n : Nat) : List UInt8 :=
  (List.range 8).filterMap fun i => if n / Nat.pow 256 i = 0 then none else some (n / Nat.pow 256 i % 256).toUInt8

def posixCrc (msg : ByteArray) : UInt32 :=
  let crc := msg.foldl crcStep 0
  ~~~((lengthBytes msg.size).foldl crcStep crc)

def bsdSum (msg : ByteArray) : Nat :=
  msg.foldl (fun s b => ((s >>> 1) + ((s &&& 1) <<< 15) + b.toNat) &&& 0xffff) 0

def sysvSum (msg : ByteArray) : Nat :=
  let s := msg.foldl (fun s b => (s + b.toNat) % 4294967296) 0
  let r := s % 65536 + s / 65536
  r % 65536 + r / 65536

end Digest
end JuryCaptions
