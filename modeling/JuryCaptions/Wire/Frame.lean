import JuryCaptions.Fault
import JuryCaptions.Text.Utf8
/-!
Length-prefixed frames: a four-byte big-endian length, then the body. A body
over the limit is refused, before any byte goes out or once its header is read.
A stream ending between frames ends cleanly, inside one it is cut short.
-/

namespace JuryCaptions
namespace Frame

def defaultLimit : Nat := 1048576

/-- The limit that a setting gives: a positive setting, or the default. -/
def limitOf (setting : Int) : Nat := if setting ≤ 0 then defaultLimit else setting.toNat

def tooLarge (size limit : Nat) : Fault :=
  ⟨.frameTooLarge, "frame too large: " ++ toString size ++ " > " ++ toString limit ++ " bytes"⟩

def truncated : Fault := ⟨.truncated, "unexpected EOF"⟩

def endOfStream : Fault := ⟨.endOfStream, "EOF"⟩

/-- The four big-endian bytes of a length below `2^32`. -/
def header (n : Nat) : List UInt8 :=
  [(n / 16777216 % 256).toUInt8, (n / 65536 % 256).toUInt8, (n / 256 % 256).toUInt8, (n % 256).toUInt8]

def lengthOf (b0 b1 b2 b3 : UInt8) : Nat :=
  ((b0.toNat * 256 + b1.toNat) * 256 + b2.toNat) * 256 + b3.toNat

def encode (limit : Nat) (body : List UInt8) : Except Fault (List UInt8) :=
  if body.length > limit then .error (tooLarge body.length limit)
  else .ok (header body.length ++ body)

/-- One read of a frame: the body or why none could be read, and the bytes left.
A header over the limit is taken alone; a cut stream is read to its end. -/
def read (limit : Nat) : List UInt8 → Except Fault (List UInt8) × List UInt8
  | [] => (.error endOfStream, [])
  | b0 :: b1 :: b2 :: b3 :: rest =>
    let n := lengthOf b0 b1 b2 b3
    if n > limit then (.error (tooLarge n limit), rest)
    else if rest.length < n then (.error truncated, [])
    else (.ok (rest.take n), rest.drop n)
  | _ => (.error truncated, [])

/-- The body of the first frame of a stream and the bytes after it, or why no
frame could be read. -/
def decode (limit : Nat) (bs : List UInt8) : Except Fault (List UInt8 × List UInt8) :=
  match read limit bs with
  | (.ok body, rest) => .ok (body, rest)
  | (.error f, _) => .error f

/-- A read that gives a body leaves fewer bytes than there were. -/
theorem read_rest_length {limit : Nat} {bs body rest : List UInt8}
    (h : read limit bs = (.ok body, rest)) : rest.length < bs.length := by
  unfold read at h
  split at h
  · cases h
  · rename_i b0 b1 b2 b3 tail
    simp only at h
    split at h
    · cases h
    · split at h
      · cases h
      · cases h
        simp
        omega
  · cases h

/-- Reading a frame leaves fewer bytes than there were. -/
theorem decode_rest_length {limit : Nat} {bs body rest : List UInt8}
    (h : decode limit bs = .ok (body, rest)) : rest.length < bs.length := by
  unfold decode at h
  split at h
  · cases h
    exact read_rest_length ‹_›
  · cases h

/-- The bodies of the first frames of a stream, at most `count` of them, and the
failure that ended the reading; no failure when `count` frames were read. -/
def decodeAll (limit : Nat) (count : Nat) (bs : List UInt8) : List (List UInt8) × Option Fault :=
  match count with
  | 0 => ([], none)
  | count + 1 =>
    match decode limit bs with
    | .error f => ([], some f)
    | .ok (body, rest) =>
      let (more, stop) := decodeAll limit count rest
      (body :: more, stop)

end Frame
end JuryCaptions
