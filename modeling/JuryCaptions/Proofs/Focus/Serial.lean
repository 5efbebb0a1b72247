import JuryCaptions.Focus.Serial
import Mathlib
/-!
Focus codes read from a serial device.

A stream read to its end is cut into `streamLines` at its line feeds, a last
line without one counted when it is not empty. Reading gives the juror of each
line in turn, up to the first line that leaves the 64 KiB buffer no room for a
line feed after it, which stops the reading. Main statement:
`serial_focus_codes`; a last line of exactly 64 KiB fails although it fits
(`full_buffer_last_line_fails`).
-/

namespace JuryCaptions
namespace Focus

/-- The lines of a stream read to its end: the parts between line feeds, the
part after the last one counted only when it is not empty. -/
def streamLines (bs : List UInt8) : List (List UInt8) :=
  let parts := bs.splitOn 10
  if parts.getLast? = some [] then parts.dropLast else parts

theorem streamLines_last {l : List UInt8} (hl : 10 ∉ l) (hne : l ≠ []) : streamLines l = [l] := by
  simp [streamLines, List.splitOn_eq_singleton hl, hne]

theorem streamLines_feed {l : List UInt8} (hl : 10 ∉ l) (r : List UInt8) :
    streamLines (l ++ 10 :: r) = l :: streamLines r := by
  obtain ⟨p, ps, hps⟩ := List.exists_cons_of_ne_nil (List.splitOn_ne_nil 10 r)
  simp only [streamLines, List.splitOn_append_cons_self_of_not_mem hl, hps, List.getLast?_cons_cons]
  split <;> simp

/-- A stream is empty, a last line, or a line, its line feed and the rest. -/
theorem stream_cases : ∀ bs : List UInt8,
    bs = [] ∨ (10 ∉ bs ∧ bs ≠ []) ∨ ∃ l r, 10 ∉ l ∧ bs = l ++ 10 :: r
  | [] => .inl rfl
  | b :: bs => by
    by_cases hb : b = 10
    · exact .inr (.inr ⟨[], bs, by simp, by simp [hb]⟩)
    · rcases stream_cases bs with rfl | ⟨hl, _⟩ | ⟨l, r, hl, rfl⟩
      · exact .inr (.inl ⟨by simp [Ne.symm hb], by simp⟩)
      · exact .inr (.inl ⟨by simp [Ne.symm hb, hl], by simp⟩)
      · exact .inr (.inr ⟨b :: l, r, by simp [Ne.symm hb, hl], rfl⟩)

theorem takeWhile_unfed {l : List UInt8} (hl : 10 ∉ l) : l.takeWhile (· != 10) = l :=
  List.takeWhile_eq_self_iff.2 fun a ha => by simpa using ne_of_mem_of_not_mem ha hl

theorem go_feed {l : List UInt8} (hl : 10 ∉ l) (fuel : Nat) (r : List UInt8) :
    splitLines.go (fuel + 1) (l ++ 10 :: r) =
      if maxLine ≤ l.length then ([], some lineTooLong)
      else (dropReturn l :: (splitLines.go fuel r).1, (splitLines.go fuel r).2) := by
  have line : (l ++ 10 :: r).takeWhile (· != 10) = l := by
    simp [List.takeWhile_append, takeWhile_unfed hl]
  have rest : (l ++ 10 :: r).drop (l.length + 1) = r := by simp
  rw [splitLines.go.eq_3 _ _ (by simp), line, rest]

theorem go_last {l : List UInt8} (hl : 10 ∉ l) (hne : l ≠ []) (fuel : Nat) :
    splitLines.go (fuel + 1) l = if maxLine ≤ l.length then ([], some lineTooLong) else ([dropReturn l], none) := by
  rw [splitLines.go.eq_3 _ _ hne, takeWhile_unfed hl, List.drop_eq_nil_of_le (by simp)]
  cases fuel <;> split <;> simp_all [splitLines.go]

/-- Read to its end, a stream gives its lines, each without one trailing
carriage return, up to the first that does not leave room for its line feed;
that one, if any, stops the reading. -/
theorem splitLines_eq (bs : List UInt8) :
    splitLines bs = (((streamLines bs).takeWhile (·.length < maxLine)).map dropReturn,
      if (streamLines bs).all (·.length < maxLine) then none else some lineTooLong) := by
  -- the fuel is the length of what is left, and each line read takes at least its line feed
  suffices ∀ fuel bs, bs.length ≤ fuel → splitLines.go fuel bs = (((streamLines bs).takeWhile (·.length < maxLine)).map dropReturn,
      if (streamLines bs).all (·.length < maxLine) then none else some lineTooLong) from this _ bs le_rfl
  intro fuel
  induction fuel with
  | zero => intro bs h; simp [List.eq_nil_of_length_eq_zero (Nat.le_zero.1 h), splitLines.go, streamLines]
  | succ fuel ih =>
    intro bs h
    rcases stream_cases bs with rfl | ⟨hl, hne⟩ | ⟨l, r, hl, rfl⟩
    · simp [splitLines.go, streamLines]
    · rw [go_last hl hne, streamLines_last hl hne]
      by_cases long : maxLine ≤ bs.length
      · simp [long]
      · simp [long, show bs.length < maxLine by omega]
    · have hr : r.length ≤ fuel := by simp at h; omega
      rw [go_feed hl, streamLines_feed hl, ih r hr]
      by_cases long : maxLine ≤ l.length
      · simp [long]
      · simp [long, show l.length < maxLine by omega]

/-- The codes a device sends and whom they name: the jurors in seat order, and
nobody. -/
def codes : List (String × SpeakerId) :=
  [("0", Juror.jurorA.id), ("1", Juror.jurorB.id), ("2", Juror.jurorC.id), ("3", Juror.foreman.id),
    ("9", SpeakerId.none)]

theorem seat_digit {c : Char} (h : '0' ≤ c ∧ c ≤ '3') : c = '0' ∨ c = '1' ∨ c = '2' ∨ c = '3' := by
  obtain ⟨h1, h2⟩ := h
  simp only [Char.le_def, UInt32.le_iff_toNat_le] at h1 h2
  have : c.toNat = 48 ∨ c.toNat = 49 ∨ c.toNat = 50 ∨ c.toNat = 51 := by
    change _ ≤ c.toNat at h1
    change c.toNat ≤ _ at h2
    simp at h1 h2
    omega
  rcases this with h | h | h | h <;> simp [← Char.toNat_inj, h]

theorem parseCode_eq (line : String) :
    parseCode line = ((codes.lookup (Blank.trim line)).getD SpeakerId.none, (codes.lookup (Blank.trim line)).isSome) := by
  unfold parseCode
  generalize Blank.trim line = t
  by_cases h9 : t = "9"
  · subst h9; decide
  -- every code is one character, so a text is a code only when its characters are one
  have differs (u : String) (hu : t.toList ≠ u.toList) : (t == u) = false := by
    simpa [beq_eq_false_iff_ne, ← String.toList_inj] using hu
  rcases ht : t.toList with _ | ⟨c, _ | ⟨d, rest⟩⟩
  · simp [codes, List.lookup, differs, ht, noFocusCode]
  · by_cases digit : '0' ≤ c ∧ c ≤ '3'
    · obtain rfl : t = String.ofList [c] := String.toList_injective (by simp [ht])
      obtain rfl | rfl | rfl | rfl := seat_digit digit <;> decide
    · have other : c ≠ '0' ∧ c ≠ '1' ∧ c ≠ '2' ∧ c ≠ '3' ∧ c ≠ '9' := by
        refine ⟨?_, ?_, ?_, ?_, fun h => h9 (String.toList_injective (by simp [ht, h]))⟩ <;>
          rintro rfl <;> exact digit (by decide)
      simp [codes, List.lookup, differs, ht, other, noFocusCode, digit]
  · simp [codes, List.lookup, differs, ht, noFocusCode]

/-- A serial device read until its stream ends: the jurors its lines name, in
order, up to the first line that leaves no room in the 64 KiB buffer for a line
feed after it; that line, if any, ends the reading with a `read serial` failure,
dropped when the context was cancelled. A line names the juror of its trimmed
code, and anything else names nobody and is marked unknown. -/
theorem serial_focus_codes (bs : List UInt8) (cancelled : Bool) :
    readLines bs cancelled =
      (((streamLines bs).takeWhile (·.length < maxLine)).map fun l => (parseCode (Utf8.decode (dropReturn l))).1,
        if cancelled || (streamLines bs).all (·.length < maxLine) then none
        else some (lineTooLong.context "read serial")) ∧
    ∀ line, parseCode line =
      ((codes.lookup (Blank.trim line)).getD SpeakerId.none, (codes.lookup (Blank.trim line)).isSome) := by
  refine ⟨?_, parseCode_eq⟩
  cases cancelled <;> by_cases fits : (streamLines bs).all (·.length < maxLine) <;>
    simp [readLines, readCodes, splitLines_eq, fits]

/-- A last line with no line feed that fills the buffer stops the reading
before it is emitted. -/
theorem last_line_overfills {l : List UInt8} (hl : 10 ∉ l) (hne : l ≠ []) (long : maxLine ≤ l.length) :
    readLines l false = ([], some (lineTooLong.context "read serial")) := by
  simp [readLines, readCodes, splitLines_eq, streamLines_last hl hne, long]

/-- A last line of exactly 64 KiB and no line feed fits the buffer, yet the
reading stops at it with a failure and emits nothing. -/
theorem full_buffer_last_line_fails :
    readLines (List.replicate 65536 48) false = ([], some (lineTooLong.context "read serial")) :=
  last_line_overfills (by rw [List.mem_replicate]; decide) (by rw [ne_eq, List.replicate_eq_nil_iff]; decide)
    (by rw [List.length_replicate]; decide)

end Focus
end JuryCaptions
