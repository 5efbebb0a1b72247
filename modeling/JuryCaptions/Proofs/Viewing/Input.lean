import JuryCaptions.Proofs.Viewing.Session
/-!
# Input keeps the targets, the active speaker and the record in step

Whatever the order of key presses, clicks, pointer leaves and reports, the
surfaces' targets, the active speaker and the record follow the last choice
(`input_follows_choices`), as `Follows` says.
-/

namespace JuryCaptions
namespace Viewing

namespace InputCall

/-- The speaker a call chooses as the target: the juror a key is bound to,
matched in lower case with the rotation keys left out, or the speaker clicked. -/
def chooses (keys : KeyMap) : InputCall → Option SpeakerId
  | .key k =>
    if Case.lower k == rotateLeftKey || Case.lower k == rotateRightKey then none
    else keys.lookup (Case.lower k)
  | .click id => some id
  | _ => none

/-- Where a call moves a target: to the speaker it chooses, or to nobody for a
pointer leave when a leave clears this target. -/
def retarget (keys : KeyMap) (clearable : Bool) (call : InputCall) : Option SpeakerId :=
  match call.chooses keys, call with
  | some id, _ => some id
  | none, .leave => if clearable then some SpeakerId.none else none
  | none, _ => none

/-- The target change a call makes known to those who listen for one. -/
def notice (keys : KeyMap) : InputCall → Option TargetChange
  | .key k => (chooses keys (.key k)).map (⟨·, keyInput⟩)
  | .click id => some ⟨id, clickInput⟩
  | .leave => some ⟨SpeakerId.none, leaveInput⟩
  | _ => none

end InputCall

/-- The target after a sequence of calls: where the last call that moves it
moved it, nobody if none did. -/
def targetAfter (keys : KeyMap) (clearable : Bool) (calls : List InputCall) : SpeakerId :=
  ((calls.filterMap (InputCall.retarget keys clearable)).getLast?).getD SpeakerId.none

theorem targetAfter_concat (keys : KeyMap) (clearable : Bool) (calls : List InputCall) (call : InputCall) :
    targetAfter keys clearable (calls ++ [call]) =
      (call.retarget keys clearable).getD (targetAfter keys clearable calls) := by
  unfold targetAfter
  rw [List.filterMap_append, List.filterMap_cons, List.filterMap_nil]
  cases call.retarget keys clearable <;> simp

namespace Controller

/-! ## One call -/

theorem key_chooses (c : Controller) (w : World) {k : String} {id : SpeakerId}
    (h : (InputCall.key k).chooses c.keys = some id) : c.key k w = (setTarget id keyInput w, true) := by
  simp only [InputCall.chooses] at h
  split at h
  · cases h
  · next hr =>
    simp only [Bool.or_eq_true, beq_iff_eq, not_or] at hr
    simp [key, hr.1, hr.2, h]

theorem perform_of_chooses (c : Controller) (w : World) {call : InputCall} {id : SpeakerId}
    (h : call.chooses c.keys = some id) :
    ∃ input, c.perform w call = setTarget id input w ∧ call.notice c.keys = some ⟨id, input⟩ := by
  cases call with
  | key k => exact ⟨keyInput, by rw [perform, key_chooses c w h], by simp [InputCall.notice, h]⟩
  | click id' =>
    simp only [InputCall.chooses, Option.some.injEq] at h
    subst h
    exact ⟨clickInput, rfl, rfl⟩
  | leave => cases h
  | position => cases h
  | gone => cases h
  | camera => cases h

theorem key_of_chooses_none (c : Controller) (w : World) {k : String}
    (h : (InputCall.key k).chooses c.keys = none) :
    ∃ yaw, (c.key k w).1 = { w with rig := { w.rig with yaw := yaw } } := by
  by_cases hl : Case.lower k = rotateLeftKey
  · exact ⟨_, by rw [key_rotateLeft c w hl]⟩
  · by_cases hr : Case.lower k = rotateRightKey
    · exact ⟨_, by rw [key_rotateRight c w hr]⟩
    · have hu : c.keys.lookup (Case.lower k) = none := by
        simpa [InputCall.chooses, hl, hr] using h
      exact ⟨w.rig.yaw, by rw [key_unbound c w hl hr hu]⟩

end Controller

/-! ## The state the input rules speak of -/

/-- A step that leaves the surfaces, the active speaker and the record as they were. -/
def Quiet (w w' : World) : Prop :=
  w'.captions = w.captions ∧ w'.registry.active = w.registry.active ∧ w'.targets = w.targets ∧
    w'.recording = w.recording

/-- After `calls` from `w₀`, every surface keeps the target field `f` with the
target chosen, the active speaker is the last choice not cleared by a leave,
and the record holds what the calls made known, in order. -/
structure Follows (c : Controller) (f : TargetField) (w₀ : World) (calls : List InputCall) (w : World) :
    Prop where
  field : ∀ s ∈ w.captions.surfaces, s.field = f
  target : ∀ s ∈ w.captions.surfaces, s.target = targetAfter c.keys (TargetField.clearable f) calls
  active : w.registry.active = targetAfter c.keys true calls
  recording : w.recording = w₀.recording
  record : w.targets = w₀.targets ++ if w₀.recording then calls.filterMap (InputCall.notice c.keys) else []

variable {c : Controller} {f : TargetField} {w₀ w : World} {calls : List InputCall}

theorem Follows.quiet (h : Follows c f w₀ calls w) {call : InputCall} {w' : World} (hq : Quiet w w')
    (hr : ∀ clearable, call.retarget c.keys clearable = none) (hn : call.notice c.keys = none) :
    Follows c f w₀ (calls ++ [call]) w' := by
  obtain ⟨hc, ha, ht, hrec⟩ := hq
  refine ⟨?_, ?_, ?_, ?_, ?_⟩
  · rw [hc]
    exact h.field
  · intro s hs
    rw [targetAfter_concat, hr]
    exact h.target s (hc ▸ hs)
  · rw [targetAfter_concat, hr, ha]
    exact h.active
  · rw [hrec]
    exact h.recording
  · rw [ht, h.record, List.filterMap_append, List.filterMap_cons, hn, List.filterMap_nil,
      List.append_nil]

theorem Follows.choose (h : Follows c f w₀ calls w) {call : InputCall} {id : SpeakerId}
    (hch : call.chooses c.keys = some id) : Follows c f w₀ (calls ++ [call]) (c.perform w call) := by
  obtain ⟨input, hp, hn⟩ := Controller.perform_of_chooses c w hch
  obtain ⟨store, patches, logs, hst⟩ := Controller.setTarget_frame id input w
  have hr : ∀ clearable, call.retarget c.keys clearable = some id := fun _ => by
    simp [InputCall.retarget, hch]
  rw [hp, hst]
  refine ⟨?_, ?_, ?_, h.recording, ?_⟩
  · intro s hs
    obtain ⟨s₀, hs₀, rfl⟩ := List.mem_map.1 hs
    exact h.field s₀ hs₀
  · intro s hs
    obtain ⟨s₀, -, rfl⟩ := List.mem_map.1 hs
    simp [targetAfter_concat, hr]
  · simp [targetAfter_concat, hr, Registry.setActive]
  · simp only [List.filterMap_append, List.filterMap_cons, hn, List.filterMap_nil, h.record, h.recording]
    cases w₀.recording <;> simp

/-- A pointer leave clears the targets when the field is clearable, and always
the active speaker, and is recorded. -/
theorem Follows.leave (h : Follows c f w₀ calls w) :
    Follows c f w₀ (calls ++ [.leave]) (c.perform w .leave) := by
  have hr : ∀ clearable, InputCall.leave.retarget c.keys clearable =
      if clearable then some SpeakerId.none else none := fun _ => rfl
  simp only [Controller.perform]
  rw [Controller.leave_eq]
  refine ⟨?_, ?_, ?_, h.recording, ?_⟩
  · intro s hs
    obtain ⟨s₀, hs₀, rfl⟩ := List.mem_map.1 hs
    split <;> exact h.field s₀ hs₀
  · -- every surface has the field `f`, so either all are cleared or none is
    intro s hs
    obtain ⟨s₀, hs₀, rfl⟩ := List.mem_map.1 hs
    rw [targetAfter_concat, hr, h.field s₀ hs₀]
    cases hcl : TargetField.clearable f
    · simpa [hcl] using h.target s₀ hs₀
    · rfl
  · rw [targetAfter_concat, hr]
    rfl
  · simp only [List.filterMap_append, List.filterMap_cons, InputCall.notice, List.filterMap_nil,
      h.record, h.recording]
    cases w₀.recording <;> simp

theorem Follows.perform (h : Follows c f w₀ calls w) (call : InputCall) :
    Follows c f w₀ (calls ++ [call]) (c.perform w call) := by
  cases hch : call.chooses c.keys with
  | some id => exact h.choose hch
  | none =>
    -- only a leave moves anything without choosing a speaker
    have hr : call ≠ .leave → ∀ clearable, call.retarget c.keys clearable = none := by
      intro hl clearable
      cases call <;> simp_all [InputCall.retarget]
    cases call with
    | key k =>
      obtain ⟨yaw, hk⟩ := Controller.key_of_chooses_none c w hch
      refine h.quiet ?_ (hr (by simp)) (by simp [InputCall.notice, hch])
      simp only [Controller.perform, hk]
      exact ⟨rfl, rfl, rfl, rfl⟩
    | click id => cases hch
    | leave => exact h.leave
    | position id offset parent =>
      refine h.quiet ⟨rfl, ?_, rfl, rfl⟩ (hr (by simp)) rfl
      simp only [Controller.perform, Controller.place, Registry.update, Registry.setPosition]
      split
      · rfl
      · simp only [Registry.ensure, Registry.modify]
        split <;> rfl
    | gone id => exact h.quiet ⟨rfl, rfl, rfl, rfl⟩ (hr (by simp)) rfl
    | camera p => exact h.quiet ⟨rfl, rfl, rfl, rfl⟩ (hr (by simp)) rfl

theorem Follows.performAll (h : Follows c f w₀ calls w) (more : List InputCall) :
    Follows c f w₀ (calls ++ more) (c.performAll w more) := by
  induction more generalizing calls w with
  | nil => simpa [Controller.performAll] using h
  | cons call more ih =>
    have := ih (h.perform call)
    rwa [List.append_assoc, List.singleton_append] at this

/-- **Input keeps the targets, the active speaker and the record in step.**
From surfaces sharing the target field `f` with no target and no active speaker,
after any calls: every surface has the target chosen, a leave clearing it when
`f` is clearable; the active speaker is the last choice, cleared by a later
leave; the record grows by what the calls made known. The rotation keys only
turn the rig, and a key neither rotating nor bound changes nothing. -/
theorem input_follows_choices (c : Controller) (w : World) (f : TargetField)
    (hsurf : ∀ s ∈ w.captions.surfaces, s.field = f ∧ s.target = SpeakerId.none)
    (hactive : w.registry.active = SpeakerId.none) (calls : List InputCall) :
    (∀ s ∈ (c.performAll w calls).captions.surfaces,
      s.target = targetAfter c.keys (TargetField.clearable f) calls) ∧
    (c.performAll w calls).registry.active = targetAfter c.keys true calls ∧
    (c.performAll w calls).targets =
      w.targets ++ (if w.recording then calls.filterMap (InputCall.notice c.keys) else []) ∧
    (∀ (v : World) (k : String), Case.lower k = rotateLeftKey →
      c.key k v = ({ v with rig := { v.rig with yaw := turn v.rig.yaw c.step } }, true)) ∧
    (∀ (v : World) (k : String), Case.lower k = rotateRightKey →
      c.key k v = ({ v with rig := { v.rig with yaw := turn v.rig.yaw (-c.step) } }, true)) ∧
    (∀ (v : World) (k : String), Case.lower k ≠ rotateLeftKey → Case.lower k ≠ rotateRightKey →
      c.keys.lookup (Case.lower k) = none → c.key k v = (v, false)) := by
  have h₀ : Follows c f w [] w :=
    ⟨fun s hs => (hsurf s hs).1, fun s hs => (hsurf s hs).2, hactive, rfl, by simp⟩
  have h := h₀.performAll calls
  rw [List.nil_append] at h
  exact ⟨h.target, h.active, h.record, fun v _ hk => Controller.key_rotateLeft c v hk,
    fun v _ hk => Controller.key_rotateRight c v hk, fun v _ hl hr hu => Controller.key_unbound c v hl hr hu⟩

/-- The statement for a cursor-target surface with the default keys, after a
bound key, a leave and a click. -/
theorem input_follows_choices_cursor :
    (∀ s ∈ ({ captions := ⟨[{ id := "caption", field := TargetField.cursor, ambient := false }]⟩ } : World).captions.surfaces,
      s.field = TargetField.cursor ∧ s.target = SpeakerId.none) ∧
    ({ captions := ⟨[{ id := "caption", field := TargetField.cursor, ambient := false }]⟩ } : World).registry.active =
      SpeakerId.none ∧
    (∀ s ∈ ((⟨KeyMap.default, 5.0⟩ : Controller).performAll
        { captions := ⟨[{ id := "caption", field := TargetField.cursor, ambient := false }]⟩ }
        [.key "1", .leave, .click "juror-b"]).captions.surfaces,
      s.target = targetAfter KeyMap.default (TargetField.clearable TargetField.cursor)
        [.key "1", .leave, .click "juror-b"]) ∧
    ((⟨KeyMap.default, 5.0⟩ : Controller).performAll
        { captions := ⟨[{ id := "caption", field := TargetField.cursor, ambient := false }]⟩ }
        [.key "1", .leave, .click "juror-b"]).registry.active =
      targetAfter KeyMap.default true [.key "1", .leave, .click "juror-b"] ∧
    ((⟨KeyMap.default, 5.0⟩ : Controller).performAll
        { captions := ⟨[{ id := "caption", field := TargetField.cursor, ambient := false }]⟩ }
        [.key "1", .leave, .click "juror-b"]).targets =
      ({ captions := ⟨[{ id := "caption", field := TargetField.cursor, ambient := false }]⟩ } : World).targets ++
        (if ({ captions := ⟨[{ id := "caption", field := TargetField.cursor, ambient := false }]⟩ } : World).recording
          then [InputCall.key "1", .leave, .click "juror-b"].filterMap (InputCall.notice KeyMap.default) else []) ∧
    (∀ (v : World) (k : String), Case.lower k = rotateLeftKey →
      (⟨KeyMap.default, 5.0⟩ : Controller).key k v = ({ v with rig := { v.rig with yaw := turn v.rig.yaw 5.0 } }, true)) ∧
    (∀ (v : World) (k : String), Case.lower k = rotateRightKey →
      (⟨KeyMap.default, 5.0⟩ : Controller).key k v = ({ v with rig := { v.rig with yaw := turn v.rig.yaw (-5.0) } }, true)) ∧
    (∀ (v : World) (k : String), Case.lower k ≠ rotateLeftKey → Case.lower k ≠ rotateRightKey →
      KeyMap.default.lookup (Case.lower k) = none → (⟨KeyMap.default, 5.0⟩ : Controller).key k v = (v, false)) := by
  have hsurf : ∀ s ∈ ({ captions := ⟨[{ id := "caption", field := TargetField.cursor, ambient := false }]⟩ } : World).captions.surfaces,
      s.field = TargetField.cursor ∧ s.target = SpeakerId.none := by
    simp [SpeakerId.none]
  exact ⟨hsurf, rfl, input_follows_choices ⟨KeyMap.default, 5.0⟩ _ TargetField.cursor hsurf rfl _⟩

end Viewing
end JuryCaptions
