import JuryCaptions.Proofs.Number.Reading
import JuryCaptions.Json.Decode
import JuryCaptions.Caption.Script
import JuryCaptions.Transcript.Merge
import JuryCaptions.Playback.Schedule
/-!
# Reading a caption script

A script is read when its bytes decode to a non-empty list of captions, each by
one of the four jurors and due no earlier than the start; otherwise the failure
names the first thing wrong (`Script.script_validation`). The captions are then
ordered stably by delay: a merge sort by "not due after", total and transitive
between numbers; no decoded delay is not-a-number (`Json.decodeBytes_noNaN`),
and doubles are ordered as their ranks (`FloatOrder`). A delay past `2^63`
nanoseconds is due at the least duration (`Caption.offset_nonneg_iff`).

Blocks are the first speakers of the maximal runs of one message
(`List.splitBy`), but for a first run numbered `-1` (`Playback.blocks_follow_runs`).
-/

namespace JuryCaptions
namespace Json

/-! ## Decoded values hold no not-a-number -/

/-- A value whose doubles are all numbers. -/
inductive Value.NoNaN : Value → Prop
  | text (s : String) : Value.NoNaN (Value.text s)
  | whole (n : Int) : Value.NoNaN (Value.whole n)
  | double {x : Float} : x.isNaN = false → Value.NoNaN (Value.double x)
  | boolean (b : Bool) : Value.NoNaN (Value.boolean b)
  | record {fs : List (String × Value)} : (∀ f ∈ fs, Value.NoNaN f.2) → Value.NoNaN (Value.record fs)
  | list {xs : List Value} : (∀ x ∈ xs, Value.NoNaN x) → Value.NoNaN (Value.list xs)
  | absent : Value.NoNaN Value.absent
  | doc (j : Json) : Value.NoNaN (Value.doc j)

mutual

theorem zero_noNaN : (shape : Shape) → Value.NoNaN shape.zero
  | .text _ => .text _
  | .whole _ => .whole _
  | .double => .double (by decide)
  | .boolean => .boolean _
  | .record _ _ fields => .record (zeroFields_noNaN fields)
  | .list _ _ => .list (by simp)
  | .fixed n _ elem => .list fun x hx => by
      rw [List.eq_of_mem_replicate hx]
      exact zero_noNaN elem
  | .optional _ => .absent
  | .anything => .absent
  | .dictionary _ => .absent

theorem zeroFields_noNaN : (fields : List (String × Shape)) → ∀ f ∈ Shape.zeroFields fields, Value.NoNaN f.2
  | [] => by simp [Shape.zeroFields]
  | (k, s) :: rest => by
    simp only [Shape.zeroFields, List.forall_mem_cons]
    exact ⟨zero_noNaN s, zeroFields_noNaN rest⟩

end

section Decoding

variable {α β : Type}

@[simp] theorem run_pure (a : α) (st : Option Mismatch) : ((pure a : Decoding α).run st) = (a, st) := rfl

@[simp] theorem run_bind (x : Decoding α) (f : α → Decoding β) (st : Option Mismatch) :
    ((x >>= f).run st) = (f (x.run st).1).run (x.run st).2 := rfl

@[simp] theorem run_note (m : Mismatch) (st : Option Mismatch) : ((note m).run st) = ((), st <|> some m) := rfl

end Decoding

section Kept

variable (shape : Shape) {cur : Value}

theorem nulled_noNaN (h : cur.NoNaN) : (shape.nulled cur).NoNaN := by
  have : shape.nulled cur = .absent ∨ shape.nulled cur = .list [] ∨ shape.nulled cur = cur := by
    unfold Shape.nulled; split <;> simp
  rcases this with h' | h' | h' <;> rw [h']
  · exact .absent
  · exact .list (by simp)
  · exact h

theorem kept_noNaN (h : cur.NoNaN) : (shape.kept cur).NoNaN := by
  unfold Shape.kept
  split
  · exact zero_noNaN _
  · exact h

theorem base_noNaN (h : cur.NoNaN) : (shape.base cur).NoNaN := by
  unfold Shape.base
  split
  · exact zero_noNaN _
  · exact h

theorem items_noNaN (h : cur.NoNaN) : ∀ v ∈ cur.items, v.NoNaN := by
  cases h with
  | list h => exact h
  | _ => simp [Value.items]

theorem fields_noNaN {fs : List (String × Value)} (h : (Value.record fs).NoNaN) : ∀ f ∈ fs, f.2.NoNaN := by
  cases h with
  | record h => exact h

theorem getD_find_noNaN {acc : List (String × Value)} (ha : ∀ f ∈ acc, f.2.NoNaN) (p : String × Value → Bool)
    {z : Value} (hz : z.NoNaN) : (((acc.find? p).map (·.2)).getD z).NoNaN := by
  cases hf : acc.find? p with
  | none => exact hz
  | some f => exact ha f (List.mem_of_find?_eq_some hf)

end Kept

mutual

theorem decodeAt_noNaN (root : String) (path : List Step) (shape : Shape) (cur : Value) :
    (j : Json) → j.Numeric → cur.NoNaN → ∀ st, ((decodeAt root path shape cur j).run st).1.NoNaN
  | .null, _, hc, st => by
    simp only [decodeAt, run_pure]
    exact nulled_noNaN shape hc
  | .bool b, _, hc, st => by
    simp only [decodeAt]
    split <;> simp only [run_pure, run_bind, run_note]
    · exact .boolean b
    · exact .doc _
    · exact kept_noNaN shape hc
  | .str s, _, hc, st => by
    simp only [decodeAt]
    split <;> simp only [run_pure, run_bind, run_note]
    · exact .text s
    · exact .doc _
    · exact kept_noNaN shape hc
  | .num lit, hj, hc, st => by
    simp only [decodeAt]
    split
    · split
      · split <;> simp only [run_pure, run_bind, run_note]
        · exact .whole _
        · exact kept_noNaN shape hc
      · simp only [run_pure, run_bind, run_note]
        exact kept_noNaN shape hc
    · split <;> simp only [run_pure, run_bind, run_note]
      · exact kept_noNaN shape hc
      · have hl : LeadsNumeric lit := by cases hj with | num h => exact h
        exact .double (readFloat_isNaN_of_leads hl)
    · split <;> simp only [run_pure, run_bind, run_note]
      · exact .absent
      · exact .doc _
    · simp only [run_pure, run_bind, run_note]
      exact kept_noNaN shape hc
  | .arr xs, hj, hc, st => by
    have hx : ∀ x ∈ xs, x.Numeric := by cases hj with | arr h => exact h
    simp only [decodeAt]
    split
    · simp only [run_pure, run_bind]
      exact .list (decodeItems_noNaN root path _ 0 _ _ xs hx (items_noNaN (base_noNaN shape hc)) st)
    · simp only [run_pure, run_bind]
      refine .list fun v hv => ?_
      rcases List.mem_append.1 hv with hv | hv
      · exact decodeItems_noNaN root path _ 0 _ _ xs hx (items_noNaN (base_noNaN shape hc)) st v hv
      · rw [List.eq_of_mem_replicate hv]
        exact zero_noNaN _
    · split <;> simp only [run_pure, run_bind, run_note]
      · exact .doc _
      · exact .absent
    · simp only [run_pure, run_bind, run_note]
      exact kept_noNaN shape hc
  | .obj ms, hj, hc, st => by
    have hm : ∀ m ∈ ms, m.2.Numeric := by cases hj with | obj h => exact h
    simp only [decodeAt]
    split
    · apply decodeMembers_noNaN root path _ ms _ hm
      split
      · next fs h => exact fields_noNaN (h ▸ base_noNaN shape hc)
      · exact zeroFields_noNaN _
    -- any document and a dictionary are read alike
    · split <;> simp only [run_pure, run_bind, run_note]
      · exact .doc _
      · exact .absent
    · split <;> simp only [run_pure, run_bind, run_note]
      · exact .doc _
      · exact .absent
    · simp only [run_pure, run_bind, run_note]
      exact kept_noNaN shape hc

theorem decodeMembers_noNaN (root : String) (path : List Step) (fields : List (String × Shape)) :
    (ms : List (String × Json)) → (acc : List (String × Value)) → (∀ m ∈ ms, m.2.Numeric) →
      (∀ f ∈ acc, f.2.NoNaN) → ∀ st, ((decodeMembers root path fields ms acc).run st).1.NoNaN
  | [], acc, _, ha, st => .record ha
  | (key, v) :: rest, acc, hm, ha, st => by
    rw [List.forall_mem_cons] at hm
    simp only [decodeMembers]
    split
    · next k s _ =>
      simp only [run_bind]
      apply decodeMembers_noNaN root path fields rest _ hm.2
      intro f hf
      obtain ⟨⟨k', prev⟩, hmem, rfl⟩ := List.mem_map.1 hf
      split
      · exact decodeAt_noNaN root _ s _ v hm.1 (getD_find_noNaN ha _ (zero_noNaN s)) _
      · exact ha _ hmem
    · exact decodeMembers_noNaN root path fields rest acc hm.2 ha st

theorem decodeItems_noNaN (root : String) (path : List Step) (elem : Shape) (i room : Nat) :
    (olds : List Value) → (xs : List Json) → (∀ x ∈ xs, x.Numeric) → (∀ v ∈ olds, v.NoNaN) →
      ∀ st, ∀ v ∈ ((decodeItems root path elem i room olds xs).run st).1, v.NoNaN
  | olds, [], _, _, st => by
    simp only [decodeItems, run_pure]
    simp
  | olds, x :: xs, hx, ho, st => by
    rw [List.forall_mem_cons] at hx
    simp only [decodeItems]
    split
    · simp only [run_pure]
      simp
    · simp only [run_bind, run_pure, List.mem_cons]
      rintro v (rfl | hv)
      · apply decodeAt_noNaN root _ elem _ x hx.1
        cases olds with
        | nil => exact zero_noNaN elem
        | cons o os => exact ho o (by simp)
      · exact decodeItems_noNaN root path elem _ _ olds.tail xs hx.2 (fun o ho' => ho o (List.mem_of_mem_tail ho')) _ v hv

end

theorem zero_isNaN : (0.0 : Float).isNaN = false := by decide

theorem float_isNaN {v : Value} (h : v.NoNaN) : v.float.isNaN = false := by
  cases h with
  | double h => exact h
  | _ => exact zero_isNaN

theorem get_noNaN {v : Value} (h : v.NoNaN) (key : String) : (v.get key).NoNaN := by
  cases h with
  | record h => exact getD_find_noNaN h _ .absent
  | _ => exact .absent

theorem decodeDoc_noNaN {j : Json} {shape : Shape} {v : Value} (hj : j.Numeric) (h : decodeDoc j shape = .ok v) :
    v.NoNaN := by
  unfold decodeDoc at h
  dsimp only at h
  split at h
  next w err heq =>
    cases err with
    | none =>
      simp only [Except.ok.injEq] at h
      subst h
      rw [show w = (w, (none : Option Mismatch)).1 from rfl, ← heq]
      exact decodeAt_noNaN _ [] shape shape.zero j hj (zero_noNaN shape) none
    | some m => simp at h

theorem decodeBytes_noNaN {bs : List UInt8} {shape : Shape} {v : Value} (h : decodeBytes bs shape = .ok v) :
    v.NoNaN := by
  unfold decodeBytes at h
  split at h
  · simp at h
  · next j hj => exact decodeDoc_noNaN (parseBytes_numeric hj) h

end Json

/-- A sort by a total and transitive order keeps in their order the elements a
filter keeps, when those are in order already. -/
theorem filter_mergeSort_eq {α : Type} {le : α → α → Bool} (trans : ∀ a b c, le a b → le b c → le a c)
    (total : ∀ a b, (le a b || le b a) = true) (p : α → Bool) {l : List α}
    (h : (l.filter p).Pairwise fun a b => le a b) : (l.mergeSort le).filter p = l.filter p := by
  have hsub := (List.sublist_mergeSort trans total h List.filter_sublist).filter p
  simp only [List.filter_filter, Bool.and_self] at hsub
  have hlen := ((List.mergeSort_perm l le).filter p).length_eq
  exact (hsub.eq_of_length hlen.symm).symm

namespace Script

open Json

theorem isValid_iff (s : SpeakerId) : SpeakerId.isValid s = true ↔ ∃ j : Juror, s = j.id := by
  constructor
  · intro h
    obtain ⟨j, hj⟩ := Option.isSome_iff_exists.1 h
    unfold Juror.ofId? at hj
    have hid : (j.id == s) = true := (List.find?_eq_some_iff_append.1 hj).1
    exact ⟨j, (beq_iff_eq.1 hid).symm⟩
  · rintro ⟨j, rfl⟩
    cases j <;> rfl

theorem delay_isNaN {data : List UInt8} {v : Value} (h : decodeBytes data shape = .ok v) :
    ∀ c ∈ v.items.map Caption.ofValue, c.delay.isNaN = false := by
  intro c hc
  obtain ⟨w, hw, rfl⟩ := List.mem_map.1 hc
  exact float_isNaN (get_noNaN (items_noNaN (decodeBytes_noNaN h) w hw) "delay")

/-! ## The rules a caption must keep -/

/-- What the check tests of one caption: a known juror and a delay not below zero. -/
def Passes (c : Caption) : Prop := SpeakerId.isValid c.speaker = true ∧ ¬ c.delay < 0

theorem check_eq_ok_iff (i : Nat) (cs : List Caption) : check i cs = .ok () ↔ ∀ c ∈ cs, Passes c := by
  induction cs generalizing i with
  | nil => simp [check]
  | cons c cs ih =>
    simp only [check, List.forall_mem_cons, Passes]
    by_cases hv : SpeakerId.isValid c.speaker = true
    · by_cases hd : c.delay < 0
      · simp [hv, hd]
      · simp [hv, hd, ih, Passes]
    · simp [hv]

theorem check_append (i : Nat) {pre : List Caption} (hpre : ∀ c ∈ pre, Passes c) (rest : List Caption) :
    check i (pre ++ rest) = check (i + pre.length) rest := by
  induction pre generalizing i with
  | nil => rfl
  | cons c pre ih =>
    rw [List.forall_mem_cons] at hpre
    obtain ⟨⟨hv, hd⟩, hpre⟩ := hpre
    simp only [List.cons_append, check, hv, hd, Bool.not_true, Bool.false_eq_true, if_false,
      ih (i + 1) hpre, List.length_cons]
    rw [Nat.add_assoc, Nat.add_comm 1]

/-! ## Putting captions in order of delay -/

/-- The comparison the sort uses: `a` may go before `b` unless `b` is due first. -/
def dueBy (a b : Caption) : Bool := !decide (b.delay < a.delay)

theorem byDelay_eq (cs : List Caption) : byDelay cs = cs.mergeSort dueBy := rfl

/-- A caption whose delay is a number. -/
abbrev Timed := {c : Caption // c.delay.isNaN = false}

theorem dueBy_trans (a b c : Timed) (h₁ : dueBy a.1 b.1 = true) (h₂ : dueBy b.1 c.1 = true) :
    dueBy a.1 c.1 = true := by
  simp only [dueBy, Bool.not_eq_true', decide_eq_false_iff_not] at *
  exact FloatOrder.not_lt_trans a.2 b.2 c.2 h₁ h₂

theorem dueBy_total (a b : Caption) : (dueBy a b || dueBy b a) = true := by
  simp only [dueBy, Bool.or_eq_true, Bool.not_eq_true', decide_eq_false_iff_not]
  by_cases h : b.delay < a.delay
  · exact .inr (FloatOrder.not_lt_of_lt h)
  · exact .inl h

/-- The captions, each with the proof that its delay is a number. -/
def timed (cs : List Caption) (h : ∀ c ∈ cs, c.delay.isNaN = false) : List Timed :=
  cs.pmap (fun c hc => ⟨c, hc⟩) h

theorem map_val_timed {cs : List Caption} (h : ∀ c ∈ cs, c.delay.isNaN = false) :
    (timed cs h).map Subtype.val = cs := by
  simp [timed, List.map_pmap]

theorem byDelay_timed {cs : List Caption} (h : ∀ c ∈ cs, c.delay.isNaN = false) :
    byDelay cs = ((timed cs h).mergeSort fun a b => dueBy a.1 b.1).map Subtype.val := by
  calc byDelay cs = ((timed cs h).map Subtype.val).mergeSort dueBy := by rw [map_val_timed]; rfl
    _ = _ := by
      symm
      exact List.map_mergeSort fun _ _ _ _ => rfl

theorem byDelay_perm (cs : List Caption) : (byDelay cs).Perm cs := List.mergeSort_perm cs _

theorem byDelay_sorted {cs : List Caption} (h : ∀ c ∈ cs, c.delay.isNaN = false) :
    (byDelay cs).Pairwise fun a b => a.delay ≤ b.delay := by
  rw [byDelay_timed h, List.pairwise_map]
  refine (List.pairwise_mergeSort (fun a b c => dueBy_trans a b c) (fun a b => dueBy_total a.1 b.1) _).imp ?_
  intro a b hab
  simp only [dueBy, Bool.not_eq_true', decide_eq_false_iff_not] at hab
  exact (FloatOrder.not_lt_iff_le a.2 b.2).1 hab

theorem byDelay_stable {cs : List Caption} (h : ∀ c ∈ cs, c.delay.isNaN = false) (d : Float) :
    (byDelay cs).filter (·.delay == d) = cs.filter (·.delay == d) := by
  -- the captions due at `d` are already in order, so the sort keeps them so
  have hpair : ((timed cs h).filter fun c => c.1.delay == d).Pairwise fun a b => dueBy a.1 b.1 :=
    List.pairwise_filter.2 (List.pairwise_of_forall fun a b ha hb => by
      simp only [dueBy, Bool.not_eq_true', decide_eq_false_iff_not]
      exact FloatOrder.not_lt_of_beq ha hb)
  conv => rhs; rw [← map_val_timed h]
  rw [byDelay_timed h, List.filter_map, List.filter_map]
  exact congrArg _ (filter_mergeSort_eq (fun a b c => dueBy_trans a b c) (fun a b => dueBy_total a.1 b.1) _ hpair)

/-! ## Reading a script -/

/-- A caption a script may hold: one of the four jurors speaks it, and it is not
due before the start. -/
def Accepted (c : Caption) : Prop := (∃ j : Juror, c.speaker = j.id) ∧ 0 ≤ c.delay

theorem passes_iff {c : Caption} (h : c.delay.isNaN = false) : Passes c ↔ Accepted c := by
  have h0 : (0 : Float).isNaN = false := by decide
  rw [Passes, Accepted, isValid_iff, FloatOrder.not_lt_iff_le h0 h]

/-- The failure for the caption at `i` when it breaks a rule: an unknown
speaker is reported before a negative delay. -/
def rejection (i : Nat) (c : Caption) : Fault :=
  if SpeakerId.isValid c.speaker then .plain ("caption " ++ toString i ++ ": negative delay " ++ FloatText.general c.delay)
  else ⟨.unknownJuror, "caption " ++ toString i ++ ": unknown juror id: " ++ Quote.quoted c.speaker⟩

theorem check_rejects (i : Nat) {c : Caption} (hc : ¬ Passes c) (post : List Caption) :
    check i (c :: post) = .error (rejection i c) := by
  unfold Passes at hc
  by_cases hv : SpeakerId.isValid c.speaker = true
  · have hd : c.delay < 0 := by simpa [hv] using hc
    simp [check, rejection, hv, hd]
  · simp [check, rejection, hv]

theorem validate_ok_iff {cs : List Caption} : (∃ r, validate cs = .ok r) ↔ cs ≠ [] ∧ ∀ c ∈ cs, Passes c := by
  unfold validate
  by_cases hne : cs = []
  · simp [hne]
  · rw [← check_eq_ok_iff 0 cs]
    simp only [List.isEmpty_iff, hne, if_false, ne_eq, not_false_eq_true, true_and]
    split <;> simp_all

theorem eq_byDelay_of_validate {cs r : List Caption} (h : validate cs = .ok r) : r = byDelay cs := by
  unfold validate at h
  split at h
  · simp at h
  · split at h
    · simp at h
    · simp only [Except.ok.injEq] at h
      exact h.symm

theorem validate_first {pre post : List Caption} {c : Caption} (hpre : ∀ b ∈ pre, Passes b) (hc : ¬ Passes c) :
    validate (pre ++ c :: post) = .error (rejection pre.length c) := by
  unfold validate
  rw [check_append 0 hpre, check_rejects _ hc, Nat.zero_add]
  simp

theorem parse_of_error {data : List UInt8} {e : DecodeError} (h : decodeBytes data shape = .error e) :
    parse data = .error (.plain ("decode captions: " ++ e.message)) := by
  simp [parse, h]

theorem parse_of_ok {data : List UInt8} {v : Value} (h : decodeBytes data shape = .ok v) :
    parse data = validate (v.items.map Caption.ofValue) := by
  simp [parse, h]

/-- **Caption scripts.** A script is read when its bytes decode to a non-empty
list of captions, each by one of the four jurors and due no earlier than the
start. Otherwise it fails with the decoding error, the empty-script failure
(`null` decodes to an empty list), or the first caption breaking a rule, by
place, an unknown speaker before a negative delay. What is read is the
captions ordered stably by delay. -/
theorem script_validation (data : List UInt8) :
    ((∃ r, parse data = .ok r) ↔
      ∃ v, decodeBytes data shape = .ok v ∧ v.items ≠ [] ∧ ∀ c ∈ v.items.map Caption.ofValue, Accepted c) ∧
    (∀ e, decodeBytes data shape = .error e → parse data = .error (.plain ("decode captions: " ++ e.message))) ∧
    (∀ v, decodeBytes data shape = .ok v → v.items = [] → parse data = .error ⟨.noCaptions, "no captions"⟩) ∧
    (∀ v pre c post, decodeBytes data shape = .ok v → v.items.map Caption.ofValue = pre ++ c :: post →
      (∀ b ∈ pre, Accepted b) → ¬ Accepted c → parse data = .error (rejection pre.length c)) ∧
    (∀ v, decodeBytes data shape = .ok v → ∀ r, parse data = .ok r →
      r.Perm (v.items.map Caption.ofValue) ∧ r.Pairwise (fun a b => a.delay ≤ b.delay) ∧
        ∀ d, r.filter (·.delay == d) = (v.items.map Caption.ofValue).filter (·.delay == d)) := by
  refine ⟨?_, fun e h => parse_of_error h, fun v h hnil => ?_, fun v pre c post h hcs hpre hc => ?_,
    fun v h r hr => ?_⟩
  · constructor
    · rintro ⟨r, hr⟩
      cases hd : decodeBytes data shape with
      | error e => simp [parse_of_error hd] at hr
      | ok v =>
        rw [parse_of_ok hd] at hr
        obtain ⟨hne, hpass⟩ := validate_ok_iff.1 ⟨r, hr⟩
        refine ⟨v, rfl, by simpa using hne, fun c hc => (passes_iff (delay_isNaN hd c hc)).1 (hpass c hc)⟩
    · rintro ⟨v, hd, hne, hacc⟩
      rw [parse_of_ok hd]
      exact validate_ok_iff.2 ⟨by simpa using hne, fun c hc => (passes_iff (delay_isNaN hd c hc)).2 (hacc c hc)⟩
  · rw [parse_of_ok h, hnil]
    rfl
  · have hnan := delay_isNaN h
    rw [parse_of_ok h, hcs]
    rw [hcs] at hnan
    exact validate_first (fun b hb => (passes_iff (hnan b (by simp [hb]))).2 (hpre b hb))
      (fun hp => hc ((passes_iff (hnan c (by simp))).1 hp))
  · rw [parse_of_ok h] at hr
    have hnan := delay_isNaN h
    rw [eq_byDelay_of_validate hr]
    exact ⟨byDelay_perm _, byDelay_sorted hnan, byDelay_stable hnan⟩

/-- `null` decodes to the empty list of captions, and is refused as an empty script. -/
theorem script_validation_null : parse (Utf8.encode "null") = .error ⟨.noCaptions, "no captions"⟩ :=
  (script_validation _).2.2.1 (.list []) (by cbv) rfl

end Script

/-! ## When a caption is due -/

namespace Caption

/-- **Offsets past `2^63` nanoseconds.**  A delay whose double has a clear sign
bit is due at a non-negative offset exactly when it is below `2^63`; from there
on it is due at the least duration. -/
theorem offset_nonneg_iff (c : Caption) (hs : (Decimal.fields (c.delay * 1000000.0)).1 = false) :
    (0 ≤ c.offset ↔ (Decimal.fields (c.delay * 1000000.0)).2.1 < 1086) ∧ (c.offset < 0 → c.offset = Duration.least) := by
  unfold offset Duration.ofMillis
  exact Duration.truncFloat_nonneg_iff _ hs

/-- A caption due `10^13` milliseconds after the start is due at the least duration. -/
theorem offset_of_late_caption : (Decimal.fields ((10000000000000.0 : Float) * 1000000.0)).1 = false ∧
    ({ delay := 10000000000000.0 } : Caption).offset = Duration.least := by
  have hs : (Decimal.fields ((10000000000000.0 : Float) * 1000000.0)).1 = false := by decide
  have hc := offset_nonneg_iff { delay := 10000000000000.0 } hs
  refine ⟨hs, hc.2 (lt_of_not_ge fun h => absurd (hc.1.1 h) (by decide))⟩

/-- A caption due `10^13` milliseconds after the start is due before it. -/
theorem late_caption_due_before_start : ({ delay := 10000000000000.0 } : Caption).offset < 0 := by decide

end Caption

/-! ## Blocks of a merged transcript -/

namespace Blank

theorem wordsOf_ne_nil : ∀ {cs cur : List Char} {acc : List String},
    ((∃ c ∈ cs, isBlank c = false) ∨ cur ≠ [] ∨ acc ≠ []) → wordsOf cs cur acc ≠ []
  | [], cur, acc, h => by
    simp only [List.not_mem_nil, false_and, exists_false, false_or] at h
    cases cur <;> simp_all [wordsOf]
  | c :: cs, cur, acc, h => by
    unfold wordsOf
    split
    · next hc =>
      apply wordsOf_ne_nil
      rcases h with ⟨x, hx, hb⟩ | h | h
      · rcases List.mem_cons.1 hx with rfl | hx
        · simp_all
        · exact .inl ⟨x, hx, hb⟩
      · cases cur <;> simp_all
      · split <;> simp_all
    · exact wordsOf_ne_nil (.inr (.inl (List.cons_ne_nil _ _)))

theorem fields_trim_ne_nil {s : String} (h : (trim s).isEmpty = false) : fields (trim s) ≠ [] := by
  unfold fields
  apply wordsOf_ne_nil
  left
  have hne : ((s.toList.dropWhile isBlank).reverse.dropWhile isBlank) ≠ [] := by
    intro he
    simp [trim, he] at h
  refine ⟨_, ?_, List.head_dropWhile_not isBlank hne⟩
  simp [trim, List.head_mem]

end Blank

namespace Playback

/-- One caption as `blocks` reads it: a new message starts a block. -/
def blockStep (acc : Int × List SpeakerId) (c : Caption) : Int × List SpeakerId :=
  if c.messageId == acc.1 then acc else (c.messageId, c.speaker :: acc.2)

theorem blocks_eq (cs : List Caption) : blocks cs = (cs.foldl blockStep (-1, [])).2.reverse := rfl

theorem foldl_blockStep_same {acc : Int × List SpeakerId} :
    ∀ {cs : List Caption}, (∀ c ∈ cs, c.messageId = acc.1) → cs.foldl blockStep acc = acc
  | [], _ => rfl
  | c :: cs, h => by
    rw [List.foldl_cons, blockStep, if_pos (by simp [h c (by simp)])]
    exact foldl_blockStep_same fun x hx => h x (by simp [hx])

theorem foldl_blockStep_groups {α : Type} (f : α × Nat → List Caption) (sp : α → SpeakerId) :
    ∀ (xs : List α) (n : Nat) (acc : Int × List SpeakerId), acc.1 < n →
      (∀ x ∈ xs, ∀ i, f (x, i) ≠ [] ∧ ∀ c ∈ f (x, i), c.messageId = i ∧ c.speaker = sp x) →
      ((xs.zipIdx n).flatMap f).foldl blockStep acc = (if xs = [] then acc.1 else (n + xs.length - 1 : Nat),
        (xs.map sp).reverse ++ acc.2)
  | [], _, acc, _, _ => by simp
  | x :: xs, n, acc, hacc, hf => by
    obtain ⟨hne, hall⟩ := hf x (by simp) n
    obtain ⟨c, rest, hcr⟩ := List.exists_cons_of_ne_nil hne
    have hc := hall c (by simp [hcr])
    have hstep : (f (x, n)).foldl blockStep acc = ((n : Int), sp x :: acc.2) := by
      rw [hcr, List.foldl_cons, blockStep, if_neg (by simp [hc.1]; omega), hc.1, hc.2]
      exact foldl_blockStep_same fun y hy => (hall y (by simp [hcr, hy])).1
    rw [List.zipIdx_cons, List.flatMap_cons, List.foldl_append, hstep,
      foldl_blockStep_groups f sp xs (n + 1) _ (by simp) fun y hy => hf y (by simp [hy])]
    cases xs with
    | nil => simp
    | cons y ys => simp; omega

theorem blocks_groups {α : Type} (xs : List α) (f : α × Nat → List Caption) (sp : α → SpeakerId)
    (hf : ∀ x ∈ xs, ∀ i, f (x, i) ≠ [] ∧ ∀ c ∈ f (x, i), c.messageId = i ∧ c.speaker = sp x) :
    blocks (xs.zipIdx.flatMap f) = xs.map sp := by
  rw [blocks_eq, foldl_blockStep_groups f sp xs 0 (-1, []) (by decide) hf]
  simp

theorem mem_captions {c : Transcript.Cue} {s : SpeakerId} {i : Nat} {x : Caption} (hx : x ∈ c.captions s i) :
    x.messageId = i ∧ x.speaker = s := by
  simp only [Transcript.Cue.captions, List.mem_map, Prod.exists] at hx
  obtain ⟨w, j, -, rfl⟩ := hx
  exact ⟨rfl, rfl⟩

theorem blocks_cues (xs : List (SpeakerId × Transcript.Cue)) (h : ∀ x ∈ xs, (Blank.trim x.2.text).isEmpty = false) :
    blocks (xs.zipIdx.flatMap fun x => x.1.2.captions x.1.1 x.2) = xs.map Prod.fst :=
  blocks_groups xs _ Prod.fst fun x hx i =>
    ⟨by simpa [Transcript.Cue.captions] using Blank.fields_trim_ne_nil (h x hx), fun _ hc => mem_captions hc⟩

/-- **Blocks of a merged transcript.**  Merging the jurors' transcripts gives one
block per cue with text, and the message number of every caption is the place of
its block, whose speaker is the caption's. -/
theorem blocks_merge (perJuror : SpeakerId → Option (List Transcript.Cue)) :
    (blocks (Transcript.merge perJuror)).length =
      (Juror.all.map fun j => ((perJuror j.id).getD []).countP fun c => !(Blank.trim c.text).isEmpty).sum ∧
    ∀ c ∈ Transcript.merge perJuror, 0 ≤ c.messageId ∧
      (blocks (Transcript.merge perJuror))[c.messageId.toNat]? = some c.speaker := by
  unfold Transcript.merge
  dsimp only
  rw [blocks_cues _ fun x hx => ?_]
  · refine ⟨?_, fun c hc => ?_⟩
    · rw [List.length_map, List.length_mergeSort, List.length_flatMap]
      congr 1
      apply List.map_congr_left
      intro j _
      split <;> simp_all [List.countP_eq_length_filter]
    · obtain ⟨⟨⟨s, cue⟩, i⟩, hx, hc⟩ := List.mem_flatMap.1 hc
      obtain ⟨hid, hsp⟩ := mem_captions hc
      simp [hid, hsp, List.mem_zipIdx_iff_getElem?.1 hx]
  · -- Merge keeps only the cues with some text
    rw [(List.mergeSort_perm _ _).mem_iff, List.mem_flatMap] at hx
    obtain ⟨j, -, hj⟩ := hx
    split at hj
    · simp only [List.mem_map, List.mem_filter] at hj
      obtain ⟨c', ⟨-, hc⟩, rfl⟩ := hj
      simpa using hc
    · simp at hj

/-- Two overlapping cues read back in order of delay: their words interleave and
make four blocks of two messages. -/
theorem overlapping_cues_split_blocks : blocks [{ messageId := 0, delay := 0.0, speaker := "juror-a" },
    { messageId := 1, delay := 1000.0, speaker := "juror-b" }, { messageId := 0, delay := 2000.0, speaker := "juror-a" },
    { messageId := 1, delay := 2000.0, speaker := "juror-b" }] = ["juror-a", "juror-b", "juror-a", "juror-b"] := by
  decide

/-! ## Runs of one message -/

/-- Two captions of one message. -/
def sameMessage (a b : Caption) : Bool := a.messageId == b.messageId

/-- The maximal runs of consecutive captions of one message. -/
def messageRuns (cs : List Caption) : List (List Caption) := cs.splitBy sameMessage

/-- The speaker of the first caption of every run, in order. -/
def runSpeakers (cs : List Caption) : List SpeakerId := (messageRuns cs).filterMap fun r => r.head?.map (·.speaker)

/-- How many neighbouring captions belong to different messages. -/
def messageChanges (cs : List Caption) : Nat := (cs.zip cs.tail).countP fun p => p.1.messageId ≠ p.2.messageId

theorem messageChanges_cons_cons (a b : Caption) (cs : List Caption) :
    messageChanges (a :: b :: cs) = messageChanges (b :: cs) + if a.messageId = b.messageId then 0 else 1 := by
  simp [messageChanges, List.countP_cons]

theorem messageId_of_mem_run {c : Caption} {r : List Caption} (h : (c :: r).IsChain fun a b => sameMessage a b) :
    ∀ x ∈ c :: r, x.messageId = c.messageId :=
  h.induction (fun x => x.messageId = c.messageId) _ (fun x y hxy hx => by simp_all [sameMessage]) fun _ => rfl

theorem foldl_blockStep_run {acc : Int × List SpeakerId} {c : Caption} {r : List Caption}
    (h : (c :: r).IsChain fun a b => sameMessage a b) (hc : c.messageId = acc.1) :
    (c :: r).foldl blockStep acc = acc :=
  foldl_blockStep_same fun x hx => (messageId_of_mem_run h x hx).trans hc

theorem messageId_ne_of_next_run {c : Caption} {r : List Caption} {gs : List (List Caption)}
    (hrun : (c :: r).IsChain fun a b => sameMessage a b)
    (hc' : ((c :: r) :: gs).IsChain fun a b => ∃ ha hb, sameMessage (a.getLast ha) (b.head hb) = false) :
    ∀ g ∈ gs.head?, ∀ y ∈ g.head?, y.messageId ≠ c.messageId := by
  intro g hg y hy
  obtain ⟨ha, hb, hne⟩ := (List.isChain_cons.1 hc').1 g hg
  have hlast := messageId_of_mem_run hrun _ (List.getLast_mem ha)
  rw [List.head_of_mem_head? hy] at hne
  simp only [sameMessage, beq_eq_false_iff_ne] at hne
  rw [← hlast]
  exact fun h => hne h.symm

/-- Reading runs, each of one message and of another message than the run
before, adds one block per run with its first speaker, as long as the first run
is of another message than the one held. -/
theorem foldl_blockStep_runs : ∀ (gs : List (List Caption)) (acc : Int × List SpeakerId), [] ∉ gs →
    (∀ g ∈ gs, g.IsChain fun a b => sameMessage a b) →
    (gs.IsChain fun a b => ∃ ha hb, sameMessage (a.getLast ha) (b.head hb) = false) →
    (∀ g ∈ gs.head?, ∀ c ∈ g.head?, c.messageId ≠ acc.1) →
    (gs.flatten.foldl blockStep acc).2 = (gs.filterMap fun g => g.head?.map (·.speaker)).reverse ++ acc.2
  | [], _, _, _, _, _ => rfl
  | [] :: _, _, hn, _, _, _ => absurd List.mem_cons_self hn
  | (c :: r) :: gs, acc, hn, hc, hc', hfirst => by
    have hrun := hc (c :: r) List.mem_cons_self
    have hstep : (c :: r).foldl blockStep acc = (c.messageId, c.speaker :: acc.2) := by
      rw [List.foldl_cons, blockStep, if_neg (by simpa using hfirst _ rfl c rfl)]
      exact foldl_blockStep_same fun x hx => messageId_of_mem_run hrun x (List.mem_cons_of_mem _ hx)
    rw [List.flatten_cons, List.foldl_append, hstep,
      foldl_blockStep_runs gs _ (fun h => hn (List.mem_cons_of_mem _ h))
        (fun g hg => hc g (List.mem_cons_of_mem _ hg)) (List.isChain_cons.1 hc').2
        (messageId_ne_of_next_run hrun hc')]
    simp

/-- `blocks` reads one block per run, the first speaker of each; a first message
numbered `-1` is taken for the one held before the first caption, so its run
adds no block. -/
theorem blocks_eq_runSpeakers (cs : List Caption) :
    blocks cs = if cs.head?.any (·.messageId == -1) then (runSpeakers cs).tail else runSpeakers cs := by
  obtain ⟨hflat, hn, hc, hc'⟩ := List.splitBy_eq_iff.1 (rfl : messageRuns cs = messageRuns cs)
  rw [runSpeakers, blocks_eq]
  generalize messageRuns cs = gs at *
  subst hflat
  rcases gs with _ | ⟨_ | ⟨c, r⟩, gs⟩
  · rfl
  · exact absurd List.mem_cons_self hn
  · have hrun := hc (c :: r) List.mem_cons_self
    by_cases hs : c.messageId = -1
    · rw [if_pos (by simp [hs]), List.flatten_cons, List.foldl_append, foldl_blockStep_run hrun hs,
        foldl_blockStep_runs gs _ (fun h => hn (List.mem_cons_of_mem _ h))
          (fun g hg => hc g (List.mem_cons_of_mem _ hg)) (List.isChain_cons.1 hc').2
          (hs ▸ messageId_ne_of_next_run hrun hc')]
      simp
    · rw [if_neg (by simp [hs]), foldl_blockStep_runs _ _ hn hc hc' (by simpa using hs)]
      simp

theorem length_foldl_blockStep : ∀ (cs : List Caption) (acc : Int × List SpeakerId),
    (cs.foldl blockStep acc).2.length =
      acc.2.length + (if cs.head?.any (·.messageId != acc.1) then 1 else 0) + messageChanges cs
  | [], acc => by simp [messageChanges]
  | [c], acc => by by_cases h : c.messageId = acc.1 <;> simp [blockStep, messageChanges, h]
  | a :: b :: cs, acc => by
    rw [List.foldl_cons, length_foldl_blockStep (b :: cs), messageChanges_cons_cons]
    by_cases ha : a.messageId = acc.1
    · rw [show blockStep acc a = acc by simp [blockStep, ha]]
      by_cases hb : b.messageId = acc.1
      · simp [ha, hb]
      · simp [ha, hb, Ne.symm]
        omega
    · rw [show blockStep acc a = (a.messageId, a.speaker :: acc.2) by simp [blockStep, ha]]
      by_cases hb : b.messageId = a.messageId
      · simp [ha, hb]
      · simp [ha, hb, Ne.symm]
        omega

/-- **Blocks of a caption list.**  `blocks` gives the first speaker of every
maximal run of one message but a first run numbered `-1`: one block per change
of message, plus one unless the list is empty or starts with message `-1`. -/
theorem blocks_follow_runs (cs : List Caption) :
    blocks cs = (if cs.head?.any (·.messageId == -1) then (runSpeakers cs).tail else runSpeakers cs) ∧
    (blocks cs).length = (if cs.head?.any (·.messageId != -1) then 1 else 0) + messageChanges cs := by
  refine ⟨blocks_eq_runSpeakers cs, ?_⟩
  rw [blocks_eq, List.length_reverse, length_foldl_blockStep]
  simp

/-- A script of one caption of message `-1` has one run and no block. -/
theorem sentinel_message_loses_block : blocks [{ messageId := -1, speaker := "juror-a" }] = [] ∧
    runSpeakers [{ messageId := -1, speaker := "juror-a" }] = ["juror-a"] := by
  decide

theorem messageRuns_groups {α : Type} (f : α × Nat → List Caption) :
    ∀ (xs : List α) (n : Nat), (∀ x ∈ xs, ∀ i, f (x, i) ≠ [] ∧ ∀ c ∈ f (x, i), c.messageId = i) →
      messageRuns ((xs.zipIdx n).flatMap f) = (xs.zipIdx n).map f
  | [], _, _ => rfl
  | x :: xs, n, hf => by
    obtain ⟨hne, hall⟩ := hf x List.mem_cons_self n
    have hrun : messageRuns (f (x, n)) = [f (x, n)] :=
      List.splitBy_of_isChain hne (List.Pairwise.isChain (List.pairwise_of_forall_mem_list fun a ha b hb => by
        simp [sameMessage, hall a ha, hall b hb]))
    rw [List.zipIdx_cons, List.flatMap_cons, messageRuns, List.splitBy_append, ← messageRuns, ← messageRuns, hrun,
      messageRuns_groups f xs (n + 1) fun y hy => hf y (List.mem_cons_of_mem _ hy), List.map_cons,
      List.singleton_append]
    -- the group's last caption and the next group's first differ in message
    intro a ha b hb
    have hna := hall a (List.mem_of_mem_getLast? ha)
    rcases xs with _ | ⟨y, ys⟩
    · simp at hb
    · obtain ⟨hne', hall'⟩ := hf y (by simp) (n + 1)
      rw [List.zipIdx_cons, List.flatMap_cons, List.head?_append_of_ne_nil _ hne'] at hb
      simp [sameMessage, hna, hall' b (List.mem_of_mem_head? hb)]

end Playback

end JuryCaptions
