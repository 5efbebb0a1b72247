import JuryCaptions.Wire.Frame
/-!
Reading back what the frame writer wrote.

A stream is the bodies in turn, each after four bytes of its length modulo `2^32`
(`lengthOf_header`), so a body shorter than `2^32` bytes and within the limit
reads back (`read_frame_append`). By induction the frames come back in order
(`decodeAll_stream_append`); a stream cut short gives the frames before the cut,
then its end or a truncation (`decodeAll_take_stream`).
-/

namespace JuryCaptions
namespace Frame

/-- The bytes the writer gives for a body: its header, then the body. -/
def frame (body : List UInt8) : List UInt8 := header body.length ++ body

/-- The frames of some bodies, one after another. -/
def stream (bodies : List (List UInt8)) : List UInt8 := (bodies.map frame).flatten

/-! ## Headers -/

@[simp] theorem length_header (n : Nat) : (header n).length = 4 := rfl

@[simp] theorem length_frame (body : List UInt8) : (frame body).length = 4 + body.length := by
  simp [frame]

@[simp] theorem stream_nil : stream [] = [] := rfl

@[simp] theorem stream_cons (body : List UInt8) (bodies : List (List UInt8)) :
    stream (body :: bodies) = frame body ++ stream bodies := rfl

/-- The length a header announces is the written length modulo `2^32`: the
four bytes keep its low 32 bits and drop the rest. -/
theorem lengthOf_header (n : Nat) :
    lengthOf (n / 16777216 % 256).toUInt8 (n / 65536 % 256).toUInt8 (n / 256 % 256).toUInt8
      (n % 256).toUInt8 = n % 4294967296 := by
  simp only [lengthOf, Nat.toUInt8, UInt8.toNat_ofNat']
  omega

theorem frame_append (body rest : List UInt8) :
    frame body ++ rest =
      (body.length / 16777216 % 256).toUInt8 :: (body.length / 65536 % 256).toUInt8 ::
        (body.length / 256 % 256).toUInt8 :: (body.length % 256).toUInt8 :: (body ++ rest) := rfl

/-! ## One read -/

/-- A body within the limit is read back as the bytes its header announces: as
many as its length modulo `2^32`, taken from the body and what follows it. -/
theorem read_frame_append_mod {limit : Nat} {body : List UInt8} (rest : List UInt8)
    (hlimit : body.length ≤ limit) :
    read limit (frame body ++ rest) =
      (.ok ((body ++ rest).take (body.length % 4294967296)),
        (body ++ rest).drop (body.length % 4294967296)) := by
  have hmod : body.length % 4294967296 ≤ body.length := Nat.mod_le _ _
  rw [frame_append]
  simp only [read, lengthOf_header]
  rw [if_neg (by omega), if_neg (by simp; omega)]

/-- A body within the limit and shorter than `2^32` bytes reads back as itself,
and the read stops right after it. -/
theorem read_frame_append {limit : Nat} {body : List UInt8} (rest : List UInt8)
    (hlimit : body.length ≤ limit) (hword : body.length < 4294967296) :
    read limit (frame body ++ rest) = (.ok body, rest) := by
  rw [read_frame_append_mod rest hlimit, Nat.mod_eq_of_lt hword]
  simp

theorem decode_frame_append {limit : Nat} {body : List UInt8} (rest : List UInt8)
    (hlimit : body.length ≤ limit) (hword : body.length < 4294967296) :
    decode limit (frame body ++ rest) = .ok (body, rest) := by
  simp only [decode, read_frame_append rest hlimit hword]

theorem read_eq_endOfStream_iff (limit : Nat) (bs : List UInt8) :
    (read limit bs).1 = .error endOfStream ↔ bs = [] := by
  match bs with
  | [] => simp [read]
  | [_] | [_, _] | [_, _, _] => simp [read, truncated, endOfStream]
  | b0 :: b1 :: b2 :: b3 :: rest =>
    simp only [read, reduceCtorEq, iff_false]
    split
    · simp [tooLarge, endOfStream]
    · split
      · simp [truncated, endOfStream]
      · simp

/-- A header over the limit is refused as soon as it is read: the four header
bytes are taken and the bytes after them are left for the next read. -/
theorem read_tooLarge {limit : Nat} (b0 b1 b2 b3 : UInt8) (rest : List UInt8)
    (h : limit < lengthOf b0 b1 b2 b3) :
    read limit (b0 :: b1 :: b2 :: b3 :: rest) =
      (.error (tooLarge (lengthOf b0 b1 b2 b3) limit), rest) := by
  simp [read, h]

/-- A frame cut short is the end of the stream when nothing of it arrived, and
a truncation otherwise, whether the cut falls in the header or in the body. -/
theorem read_take_frame {limit : Nat} {body : List UInt8} {j : Nat}
    (hlimit : body.length ≤ limit) (hword : body.length < 4294967296)
    (hj : j < (frame body).length) :
    read limit ((frame body).take j) = (.error (if j = 0 then endOfStream else truncated), []) := by
  match j with
  | 0 => rfl
  | 1 | 2 | 3 => rfl
  | j + 4 =>
    have hn : body.length % 4294967296 = body.length := Nat.mod_eq_of_lt hword
    have hcut : j < body.length := by simp at hj; omega
    have htake : (frame body).take (j + 4) =
        (body.length / 16777216 % 256).toUInt8 :: (body.length / 65536 % 256).toUInt8 ::
          (body.length / 256 % 256).toUInt8 :: (body.length % 256).toUInt8 :: body.take j := by
      simp [frame, header]
    rw [htake]
    simp only [read, lengthOf_header, hn, List.length_take]
    rw [if_neg (Nat.not_lt.mpr hlimit), if_pos (by omega)]
    simp

/-! ## Whole streams -/

theorem decodeAll_of_read_error {limit count : Nat} {bs : List UInt8} {f : Fault} {rest : List UInt8}
    (h : read limit bs = (.error f, rest)) :
    decodeAll limit (count + 1) bs = ([], some f) := by
  simp [decodeAll, decode, h]

theorem decodeAll_frame_append {limit count : Nat} {body : List UInt8} (rest : List UInt8)
    (hlimit : body.length ≤ limit) (hword : body.length < 4294967296) :
    decodeAll limit (count + 1) (frame body ++ rest) =
      (body :: (decodeAll limit count rest).1, (decodeAll limit count rest).2) := by
  simp only [decodeAll, decode_frame_append rest hlimit hword]

section Streams

variable {limit : Nat} {bodies : List (List UInt8)}

/-- What the frame reader needs of every body: within its limit, and short
enough for the header to hold its length. -/
def Fits (limit : Nat) (bodies : List (List UInt8)) : Prop :=
  ∀ b ∈ bodies, b.length ≤ limit ∧ b.length < 4294967296

theorem Fits.tail {b : List UInt8} (h : Fits limit (b :: bodies)) : Fits limit bodies :=
  fun c hc => h c (List.mem_cons_of_mem b hc)

theorem decodeAll_stream_append (h : Fits limit bodies) (count : Nat) (rest : List UInt8) :
    decodeAll limit (bodies.length + count) (stream bodies ++ rest) =
      (bodies ++ (decodeAll limit count rest).1, (decodeAll limit count rest).2) := by
  induction bodies with
  | nil => simp
  | cons b bs ih =>
    obtain ⟨hlimit, hword⟩ := h b List.mem_cons_self
    have hcount : (b :: bs).length + count = (bs.length + count) + 1 := by simp; omega
    rw [hcount, stream_cons, List.append_assoc, decodeAll_frame_append _ hlimit hword, ih h.tail]
    simp

/-- Reading a whole stream with room for one read more than it has frames gives
every body, in order, and then the end of the stream. -/
theorem decodeAll_stream {count : Nat} (h : Fits limit bodies) (hcount : bodies.length < count) :
    decodeAll limit count (stream bodies) = (bodies, some endOfStream) := by
  obtain ⟨extra, rfl⟩ : ∃ extra, count = bodies.length + (extra + 1) :=
    ⟨count - bodies.length - 1, by omega⟩
  have := decodeAll_stream_append h (extra + 1) []
  rw [List.append_nil] at this
  rw [this]
  simp [decodeAll, decode, read]

/-- A stream cut anywhere gives the `i` frames that end before the cut, then the
end of the stream between frames or a truncation inside one. -/
theorem decodeAll_take_stream {count : Nat} (h : Fits limit bodies) (hcount : bodies.length < count)
    {k : Nat} (hk : k ≤ (stream bodies).length) :
    ∃ i ≤ bodies.length, (stream (bodies.take i)).length ≤ k ∧
      (i < bodies.length → k < (stream (bodies.take (i + 1))).length) ∧
      decodeAll limit count ((stream bodies).take k) =
        (bodies.take i, some (if k = (stream (bodies.take i)).length then endOfStream else truncated)) := by
  induction bodies generalizing k count with
  | nil =>
    refine ⟨0, Nat.le_refl 0, by simp, by simp, ?_⟩
    have hk0 : k = 0 := by simpa using hk
    obtain ⟨c, rfl⟩ : ∃ c, count = c + 1 := ⟨count - 1, by simp at hcount; omega⟩
    simp [hk0, decodeAll, decode, read]
  | cons b bs ih =>
    obtain ⟨hlimit, hword⟩ := h b List.mem_cons_self
    obtain ⟨c, rfl⟩ : ∃ c, count = c + 1 := ⟨count - 1, by simp at hcount; omega⟩
    by_cases hin : k < (frame b).length
    · -- the cut falls inside the first frame
      refine ⟨0, Nat.zero_le _, by simp, fun _ => by simpa using hin, ?_⟩
      have htake : (stream (b :: bs)).take k = (frame b).take k := by
        rw [stream_cons, List.take_append_of_le_length (Nat.le_of_lt hin)]
      rw [htake, decodeAll_of_read_error (read_take_frame hlimit hword hin)]
      by_cases hk0 : k = 0 <;> simp [hk0]
    · -- the first frame arrived whole; the cut falls in the rest
      have hle : (frame b).length ≤ k := Nat.le_of_not_lt hin
      have hk' : k - (frame b).length ≤ (stream bs).length := by
        simp only [stream_cons, List.length_append] at hk; omega
      obtain ⟨i, hi, hlo, hhi, hread⟩ := ih h.tail (by simpa using hcount) hk'
      refine ⟨i + 1, by simpa using hi, ?_, ?_, ?_⟩
      · simp only [List.take_succ_cons, stream_cons, List.length_append] at hlo ⊢; omega
      · intro hlt
        have := hhi (by simpa using hlt)
        simp only [List.take_succ_cons, stream_cons, List.length_append] at this ⊢; omega
      · have htake : (stream (b :: bs)).take k =
            frame b ++ (stream bs).take (k - (frame b).length) := by
          rw [stream_cons, List.take_append, List.take_of_length_le hle]
        rw [htake, decodeAll_frame_append _ hlimit hword, hread]
        have hboundary : (k = (stream (b :: bs.take i)).length) ↔
            (k - (frame b).length = (stream (bs.take i)).length) := by
          simp only [stream_cons, List.length_append]; omega
        simp only [List.take_succ_cons, hboundary]

theorem encode_of_le {limit : Nat} {body : List UInt8} (h : body.length ≤ limit) :
    encode limit body = .ok (frame body) := by
  simp [encode, frame, Nat.not_lt.mpr h]

theorem mapM_encode {limit : Nat} (h : ∀ b ∈ bodies, b.length ≤ limit) :
    bodies.mapM (encode limit) = .ok (bodies.map frame) := by
  induction bodies with
  | nil => rfl
  | cons b bs ih =>
    rw [List.mapM_cons, encode_of_le (h b List.mem_cons_self),
      ih (fun c hc => h c (List.mem_cons_of_mem b hc))]
    rfl

/-- **The framing contract.**  A setting of `0` or below stands for the default
limit. Bodies within the writer's limit are written as frames; within the
reader's limit and below `2^32` bytes they read back in order, then the end,
which is met only where no byte is left. A cut gives the frames before it, then
the end or a truncation. An oversized header is refused with its four bytes
taken; an oversized body is refused and nothing is written. -/
theorem frames_readBack (writeSetting readSetting : Int) (count : Nat) (bodies : List (List UInt8))
    (hwrite : ∀ b ∈ bodies, b.length ≤ limitOf writeSetting) (hread : Fits (limitOf readSetting) bodies)
    (hcount : bodies.length < count) :
    bodies.mapM (encode (limitOf writeSetting)) = .ok (bodies.map frame) ∧
    decodeAll (limitOf readSetting) count (stream bodies) = (bodies, some endOfStream) ∧
    (∀ k ≤ (stream bodies).length, ∃ i ≤ bodies.length, (stream (bodies.take i)).length ≤ k ∧
      (i < bodies.length → k < (stream (bodies.take (i + 1))).length) ∧
      decodeAll (limitOf readSetting) count ((stream bodies).take k) =
        (bodies.take i, some (if k = (stream (bodies.take i)).length then endOfStream else truncated))) ∧
    (∀ bs : List UInt8, (read (limitOf readSetting) bs).1 = .error endOfStream ↔ bs = []) ∧
    (∀ (b0 b1 b2 b3 : UInt8) (rest : List UInt8), limitOf readSetting < lengthOf b0 b1 b2 b3 →
      read (limitOf readSetting) (b0 :: b1 :: b2 :: b3 :: rest) =
        (.error (tooLarge (lengthOf b0 b1 b2 b3) (limitOf readSetting)), rest)) ∧
    (∀ body : List UInt8, limitOf writeSetting < body.length →
      encode (limitOf writeSetting) body = .error (tooLarge body.length (limitOf writeSetting))) :=
  ⟨mapM_encode hwrite, decodeAll_stream hread hcount,
    fun _ hk => decodeAll_take_stream hread hcount hk, read_eq_endOfStream_iff _,
    read_tooLarge, fun _ h => by simp [encode, h]⟩

theorem frames_readBack_pair :
    (∀ b ∈ [[1, 2], []], List.length (α := UInt8) b ≤ limitOf 0) ∧ Fits (limitOf 2) [[1, 2], []] ∧
      decodeAll (limitOf 2) 3 (stream [[1, 2], []]) = ([[1, 2], []], some endOfStream) :=
  ⟨by decide, by simp [Fits, limitOf],
    (frames_readBack 0 2 3 [[1, 2], []] (by decide) (by simp [Fits, limitOf]) (by decide)).2.1⟩

/-- A writer set to `0` takes the default limit, so a one-byte body, longer than
the setting, is written whole. -/
theorem zero_setting_writes_longer_body :
    (0 : Int) < ([97] : List UInt8).length ∧ encode (limitOf 0) [97] = .ok (frame [97]) :=
  ⟨by decide, encode_of_le (by decide)⟩

end Streams

/-- A body whose length is a whole multiple of `2^32` is written within a large
enough limit, but its header announces an empty body, so the stream reads back
as an empty frame first. -/
theorem decodeAll_wrapped {limit : Nat} {body : List UInt8} (hlimit : body.length ≤ limit)
    (hwrap : body.length % 4294967296 = 0) :
    encode limit body = .ok (frame body) ∧ (decodeAll limit 2 (stream [body])).1.head? = some [] := by
  refine ⟨encode_of_le hlimit, ?_⟩
  have hread := read_frame_append_mod [] hlimit
  rw [hwrap, List.take_zero, List.drop_zero] at hread
  have hstream : stream [body] = frame body ++ [] := rfl
  rw [hstream]
  simp only [decodeAll, decode, hread, List.head?_cons]

end Frame
end JuryCaptions
