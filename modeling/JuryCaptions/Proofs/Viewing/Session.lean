import JuryCaptions.Viewing.Controller
/-!
# What the steps of a viewing session touch

Each operation changes a few parts of the state and leaves the rest: one lemma
per operation, as a record update of the whole state, so the statements about
input and frames never unfold a write.
-/

namespace JuryCaptions
namespace Viewing
namespace World

theorem write_frame (w : World) (entity attr : String) (v : SceneValue) :
    ∃ patches logs, w.write entity attr v =
      { w with store := (w.store.set entity attr v).1, patches := patches, logs := logs } := by
  unfold write
  split
  · next store h => exact ⟨w.patches, w.logs, by rw [h]⟩
  · next store p h =>
    rw [h]
    dsimp only
    by_cases hb : w.bridged = true
    · rw [if_pos hb]
      split
      · exact ⟨_, _, rfl⟩
      · exact ⟨_, _, rfl⟩
    · rw [if_neg hb]
      exact ⟨_, _, rfl⟩

theorem writeOpacities_frame (w : World) (ws : List OpacityWrite) :
    ∃ store patches logs, w.writeOpacities ws = { w with store := store, patches := patches, logs := logs } := by
  induction ws generalizing w with
  | nil => exact ⟨w.store, w.patches, w.logs, rfl⟩
  | cons o ws ih =>
    obtain ⟨ps, ls, h⟩ := write_frame w o.surface Attr.opacity (.float o.opacity)
    obtain ⟨store, patches, logs, h'⟩ := ih (w.write o.surface Attr.opacity (.float o.opacity))
    refine ⟨store, patches, logs, ?_⟩
    simp only [writeOpacities, List.foldl_cons] at h' ⊢
    rw [h', h]

end World

namespace Controller

/-- Setting every surface's target: each takes it, it becomes the active speaker
and is recorded when recording; only the store and what was sent change too. -/
theorem setTarget_frame (id : SpeakerId) (input : String) (w : World) :
    ∃ store patches logs, setTarget id input w =
      { w with captions := (w.captions.setTargetAll id).1, registry := w.registry.setActive id,
               targets := if w.recording then w.targets ++ [⟨id, input⟩] else w.targets,
               store := store, patches := patches, logs := logs } := by
  unfold setTarget World.noteTarget
  rcases hs : w.captions.setTargetAll id with ⟨cs, writes⟩
  obtain ⟨store, patches, logs, h⟩ := World.writeOpacities_frame { w with captions := cs } writes
  refine ⟨store, patches, logs, ?_⟩
  dsimp only
  rw [h]
  cases w.recording <;> rfl

theorem leave_eq (w : World) :
    leave w = { w with captions := w.captions.clearTargetAll, registry := w.registry.clearActive,
                       targets := if w.recording then w.targets ++ [⟨SpeakerId.none, leaveInput⟩] else w.targets } := by
  unfold leave World.noteTarget
  cases w.recording <;> rfl

end Controller

/-! ## The calls of the input controller -/

/-- A call the input controller takes. -/
inductive InputCall where
  | key (k : String)
  | click (id : SpeakerId)
  | leave
  | position (id : SpeakerId) (offset parent : Vec3)
  | gone (id : SpeakerId)
  | camera (p : Vec3)

namespace Controller

/-- Makes a call. -/
def perform (c : Controller) (w : World) : InputCall → World
  | .key k => (c.key k w).1
  | .click id => click id w
  | .leave => leave w
  | .position id offset parent => place id offset parent w
  | .gone id => gone id w
  | .camera p => moveCamera p w

/-- Makes calls in order. -/
def performAll (c : Controller) (w : World) (calls : List InputCall) : World :=
  calls.foldl c.perform w

theorem position_ok {args : List String} {w w' : World} (h : position args w = .ok w') :
    ∃ id offset parent, w' = place id offset parent w := by
  unfold position at h
  split at h
  · cases h
  · next a rest =>
    cases hid : SpeakerId.parse a with
    | error f => simp [hid, bind, Except.bind] at h
    | ok id =>
      cases hv : (parseCoordinates rest).mapError (Fault.context ("position for " ++ id)) with
      | error f => simp [hid, hv, bind, Except.bind] at h
      | ok v =>
        simp only [hid, hv, bind, Except.bind] at h
        split at h
        · exact ⟨id, _, _, (Except.ok.inj h).symm⟩
        · exact ⟨id, _, _, (Except.ok.inj h).symm⟩
        · cases h

theorem handle_performs (c : Controller) (e : Dispatch.Event) (w : World) :
    (c.handle e w).1 = w ∨ ∃ call, (c.handle e w).1 = c.perform w call := by
  unfold handle
  by_cases hk : (e.command == Host.keyCommand) = true
  · exact .inr ⟨.key (e.arg 0), by simp [hk, perform]⟩
  by_cases hc : (e.command == Host.clickCommand) = true
  · cases hr : requireSet "click" (e.arg 0) with
    | error f => exact .inl (by simp [hk, hc, bind, Except.bind])
    | ok id => exact .inr ⟨.click id, by simp [hk, hc, bind, Except.bind, pure, Except.pure, perform]⟩
  by_cases hl : (e.command == Host.leaveCommand) = true
  · exact .inr ⟨.leave, by simp [hk, hc, hl, perform]⟩
  by_cases hp : (e.command == Host.positionCommand) = true
  · cases hr : position e.args w with
    | error f => exact .inl (by simp [hk, hc, hl, hp])
    | ok w' =>
      obtain ⟨id, offset, parent, rfl⟩ := position_ok hr
      exact .inr ⟨.position id offset parent, by simp [hk, hc, hl, hp, perform]⟩
  by_cases hg : (e.command == Host.goneCommand) = true
  · cases hr : requireSet "gone" (e.arg 0) with
    | error f => exact .inl (by simp [hk, hc, hl, hp, hg, bind, Except.bind])
    | ok id => exact .inr ⟨.gone id, by simp [hk, hc, hl, hp, hg, bind, Except.bind, pure, Except.pure, perform]⟩
  by_cases hm : (e.command == Host.cameraCommand) = true
  · simp only [hk, hc, hl, hp, hg, hm, if_true, if_false, Bool.false_eq_true]
    split
    · next x y z _ => exact .inr ⟨.camera ⟨x, y, z⟩, rfl⟩
    · exact .inl rfl
  · exact .inl (by simp [hk, hc, hl, hp, hg, hm])

/-! ## Keys -/

theorem key_rotateLeft (c : Controller) (w : World) {k : String} (hk : Case.lower k = rotateLeftKey) :
    c.key k w = ({ w with rig := { w.rig with yaw := turn w.rig.yaw c.step } }, true) := by
  simp [key, hk]

theorem key_rotateRight (c : Controller) (w : World) {k : String} (hk : Case.lower k = rotateRightKey) :
    c.key k w = ({ w with rig := { w.rig with yaw := turn w.rig.yaw (-c.step) } }, true) := by
  have hne : rotateRightKey ≠ rotateLeftKey := by decide
  simp [key, hk, hne]

theorem key_unbound (c : Controller) (w : World) {k : String}
    (hl : Case.lower k ≠ rotateLeftKey) (hr : Case.lower k ≠ rotateRightKey)
    (h : c.keys.lookup (Case.lower k) = none) : c.key k w = (w, false) := by
  simp [key, hl, hr, h]

end Controller

end Viewing
end JuryCaptions
