import JuryCaptions.Proofs.Viewing.Frame
/-!
# A marker over a run of ticks

A tick writes the marker when its speaker is set and resolves. A set speaker is
missing exactly while a warning for it is outstanding (`Updater.mem_missing_after`),
so it is warned about once per stretch of ticks that cannot resolve it
(`marker_ticks`); the empty speaker never is (`unset_speaker_not_warned`).
-/

namespace JuryCaptions
namespace Indicator

/-- One call of `Updater.tick`: the anchor, and what the speaker source and the
resolver say at that moment. -/
structure TickCall where
  anchor : Vec3
  speaker : SpeakerId
  active : Bool
  resolve : SpeakerId → Option Vec3

/-- The warning a tick logs when it cannot resolve `id`. -/
def unresolvedWarning (id : SpeakerId) : LogRecord :=
  ⟨.warn, "speaker position unresolved, skipping indicator", [("speaker", .str id)]⟩

namespace TickCall

/-- Whether a call finds `id`: the speaker is `id` and `id` resolves. -/
def Finds (c : TickCall) (id : SpeakerId) : Prop := c.speaker = id ∧ (c.resolve id).isSome

end TickCall

namespace Updater

def tickWith (u : Updater) (c : TickCall) : Tick := u.tick c.speaker c.active c.anchor c.resolve

/-- The calls and what each returned, in order. -/
def history : Updater → List TickCall → List (TickCall × Tick)
  | _, [] => []
  | u, c :: cs => (c, u.tickWith c) :: history (u.tickWith c).updater cs

/-- The updater after the calls. -/
def after (u : Updater) (cs : List TickCall) : Updater := cs.foldl (fun u c => (u.tickWith c).updater) u

end Updater

/-- A warning for `id` is outstanding after a history when one was logged and no
call since found `id`. -/
def Outstanding (id : SpeakerId) (h : List (TickCall × Tick)) : Prop :=
  ∃ pre x mid, h = pre ++ x :: mid ∧ unresolvedWarning id ∈ x.2.logs ∧ ∀ y ∈ mid, ¬ y.1.Finds id

theorem outstanding_nil (id : SpeakerId) : ¬ Outstanding id [] := by
  rintro ⟨pre, x, mid, h, -⟩
  simp at h

theorem outstanding_concat (id : SpeakerId) (h : List (TickCall × Tick)) (x : TickCall × Tick) :
    Outstanding id (h ++ [x]) ↔ unresolvedWarning id ∈ x.2.logs ∨ (Outstanding id h ∧ ¬ x.1.Finds id) := by
  constructor
  · rintro ⟨pre, y, mid, he, hw, hmid⟩
    -- the warning is the call itself, or one before it that the call does not cancel
    rcases List.eq_nil_or_concat' mid with rfl | ⟨mid', z, rfl⟩
    · obtain ⟨-, hx⟩ := List.append_inj' he rfl
      obtain ⟨rfl, -⟩ := List.cons.inj hx
      exact .inl hw
    · have he' : h ++ [x] = (pre ++ y :: mid') ++ [z] := by simpa using he
      obtain ⟨rfl, hx⟩ := List.append_inj' he' rfl
      obtain ⟨rfl, -⟩ := List.cons.inj hx
      exact .inr ⟨⟨pre, y, mid', rfl, hw, fun w hw' => hmid w (by simp [hw'])⟩, hmid _ (by simp)⟩
  · rintro (hw | ⟨⟨pre, y, mid, rfl, hw, hmid⟩, hx⟩)
    · exact ⟨h, x, [], rfl, hw, by simp⟩
    · refine ⟨pre, y, mid ++ [x], by simp, hw, fun w hw' => ?_⟩
      rcases List.mem_append.1 hw' with hm | hm
      · exact hmid w hm
      · rw [List.mem_singleton.1 hm]
        exact hx

namespace Updater

variable (u : Updater) (c : TickCall)

theorem tickWith_updater : (u.tickWith c).updater = { u with missing := (u.tickWith c).updater.missing } :=
  Viewing.Indicator.Updater.tick_updater u c.speaker c.active c.anchor c.resolve

theorem wrote_tickWith : (u.tickWith c).wrote = true ↔ SpeakerId.isSet c.speaker = true ∧ (c.resolve c.speaker).isSome := by
  unfold tickWith tick
  cases hs : SpeakerId.isSet c.speaker
  · simp
  · cases hr : c.resolve c.speaker with
    | none => by_cases hm : c.speaker ∈ u.missing <;> simp [hm]
    | some p => by_cases hm : c.speaker ∈ u.missing <;> simp [hm]

theorem warning_mem_tickWith (id : SpeakerId) :
    unresolvedWarning id ∈ (u.tickWith c).logs ↔
      c.speaker = id ∧ SpeakerId.isSet id = true ∧ c.resolve id = none ∧ id ∉ u.missing := by
  unfold tickWith tick
  -- a tick logs only about its own speaker
  by_cases he : c.speaker = id
  · subst he
    cases hs : SpeakerId.isSet c.speaker
    · simp
    · cases hr : c.resolve c.speaker with
      | none => by_cases hm : c.speaker ∈ u.missing <;> simp [hm, unresolvedWarning]
      | some p => by_cases hm : c.speaker ∈ u.missing <;> simp [hm, unresolvedWarning]
  · simp only [he, false_and, iff_false]
    cases hs : SpeakerId.isSet c.speaker
    · simp
    · cases hr : c.resolve c.speaker with
      | none => by_cases hm : c.speaker ∈ u.missing <;> simp [hm, unresolvedWarning, Ne.symm he]
      | some p => by_cases hm : c.speaker ∈ u.missing <;> simp [hm, unresolvedWarning]

theorem mem_missing_tickWith {id : SpeakerId} (hid : SpeakerId.isSet id = true) :
    id ∈ (u.tickWith c).updater.missing ↔
      unresolvedWarning id ∈ (u.tickWith c).logs ∨ (id ∈ u.missing ∧ ¬ c.Finds id) := by
  rw [warning_mem_tickWith]
  unfold tickWith tick
  by_cases he : c.speaker = id
  · subst he
    cases hr : c.resolve c.speaker with
    | none => by_cases hm : c.speaker ∈ u.missing <;> simp [hid, hr, hm, TickCall.Finds]
    | some p => by_cases hm : c.speaker ∈ u.missing <;> simp [hid, hr, hm, TickCall.Finds]
  · have hf : ¬ c.Finds id := fun h => he h.1
    simp only [he, false_and, false_or, hf, not_false_eq_true, and_true]
    cases hs : SpeakerId.isSet c.speaker
    · simp
    · cases hr : c.resolve c.speaker with
      | none => by_cases hm : c.speaker ∈ u.missing <;> simp [hm, Ne.symm he]
      | some p => by_cases hm : c.speaker ∈ u.missing <;> simp [hm, Ne.symm he]

theorem after_concat (cs : List TickCall) : u.after (cs ++ [c]) = ((u.after cs).tickWith c).updater := by
  rw [after, List.foldl_append]
  rfl

theorem history_concat (cs : List TickCall) :
    u.history (cs ++ [c]) = u.history cs ++ [(c, (u.after cs).tickWith c)] := by
  induction cs generalizing u with
  | nil => rfl
  | cons d ds ih => simp only [List.cons_append, history, ih]; rfl

theorem settings_after (cs : List TickCall) :
    (u.after cs).offset = u.offset ∧ (u.after cs).colors = u.colors := by
  induction cs using List.reverseRecOn with
  | nil => exact ⟨rfl, rfl⟩
  | append_singleton cs d ih =>
    rw [after_concat, tickWith_updater]
    exact ih

theorem mem_missing_after {id : SpeakerId} (hid : SpeakerId.isSet id = true) (h0 : u.missing = [])
    (cs : List TickCall) : id ∈ (u.after cs).missing ↔ Outstanding id (u.history cs) := by
  induction cs using List.reverseRecOn with
  | nil => simp [after, history, h0, outstanding_nil]
  | append_singleton cs d ih =>
    rw [after_concat, history_concat, outstanding_concat, mem_missing_tickWith _ _ hid, ih]

end Updater

/-! ## Ticks over a run -/

/-- **A marker over any run of ticks.**  At every tick of a new updater: the
marker is written exactly when the speaker is set and resolves, turned by the
offset from the anchor toward it and coloured by whether it is active. A
warning for a set speaker is logged exactly when it does not resolve and none
was logged since the last tick that found it. -/
theorem marker_ticks (offset : Offset) (colors : Colors) (pre : List TickCall) (c : TickCall)
    (id : SpeakerId) (hid : SpeakerId.isSet id = true) :
    let u : Updater := { offset, colors }
    let t := (u.after pre).tickWith c
    (t.wrote = true ↔ SpeakerId.isSet c.speaker = true ∧ (c.resolve c.speaker).isSome) ∧
      (∀ p, SpeakerId.isSet c.speaker = true → c.resolve c.speaker = some p →
        t.writes = [.rotation (offset.apply (lookAt c.anchor p up)), .color (colors.pick c.active)]) ∧
      (t.wrote = false → t.writes = []) ∧
      (unresolvedWarning id ∈ t.logs ↔
        c.speaker = id ∧ c.resolve id = none ∧ ¬ Outstanding id (u.history pre)) := by
  intro u t
  obtain ⟨ho, hc⟩ : (u.after pre).offset = offset ∧ (u.after pre).colors = colors := u.settings_after pre
  have hw := (u.after pre).wrote_tickWith c
  refine ⟨hw, fun p hs hr => ?_, fun hf => ?_, ?_⟩
  · rw [← ho, ← hc]
    exact Viewing.Indicator.Updater.tick_writes_of_resolve hs hr
  · -- a tick that writes nothing has no speaker or cannot resolve it
    apply Viewing.Indicator.Updater.tick_writes_idle
    cases hs : SpeakerId.isSet c.speaker
    · exact .inl rfl
    · refine .inr (Option.not_isSome_iff_eq_none.1 fun hr => ?_)
      have := hw.2 ⟨hs, hr⟩
      simp_all [t]
  · rw [Updater.warning_mem_tickWith, Updater.mem_missing_after u hid rfl pre]
    simp [hid]

/-- An unresolved speaker is warned about once: the second of two ticks that
cannot resolve juror A logs no warning. -/
theorem marker_warns_once :
    let c : TickCall := ⟨Vec3.zero, Juror.jurorA.id, true, fun _ => none⟩
    unresolvedWarning Juror.jurorA.id ∉
      ((({ offset := Offset.none, colors := Colors.gold } : Updater).after [c]).tickWith c).logs := by
  intro c
  rw [(marker_ticks Offset.none Colors.gold [c] c Juror.jurorA.id (by decide)).2.2.2]
  rintro ⟨-, -, hout⟩
  refine hout ⟨[], _, [], rfl, ?_, by simp⟩
  simp [Updater.tickWith, Updater.tick, unresolvedWarning, c, SpeakerId.isSet, Juror.id]

/-- The empty speaker is never warned about: a tick without a speaker logs
nothing, though nothing resolves it and no warning came before. -/
theorem unset_speaker_not_warned :
    let c : TickCall := ⟨Vec3.zero, SpeakerId.none, false, fun _ => none⟩
    c.speaker = SpeakerId.none ∧ c.resolve SpeakerId.none = none ∧
      ¬ Outstanding SpeakerId.none (({} : Updater).history []) ∧
      unresolvedWarning SpeakerId.none ∉ ((({} : Updater).after []).tickWith c).logs := by
  intro c
  refine ⟨rfl, rfl, outstanding_nil _, ?_⟩
  rw [Updater.warning_mem_tickWith]
  simp [SpeakerId.isSet, SpeakerId.none]

end Indicator
end JuryCaptions
