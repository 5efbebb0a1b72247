import JuryCaptions.Caption.Surface
/-!
# Caption visibility over every sequence of calls

A surface writes an opacity exactly when its speaker and target are set: the
one its rule gives for the state reached. Calls on a set act on each surface
alone. `Shown` keeps beside each surface the last opacity written, and
`surface_visibility` says every such element shows what the rule gives now.
-/

namespace JuryCaptions

/-- The opacity the rule gives once speaker and target are set: opaque when the
speaker is the target, for a plain surface, and when it is not, for an ambient one. -/
def ruleOpacity (speaker target : SpeakerId) (ambient : Bool) : Float :=
  if (speaker == target) != ambient then 1.0 else 0.0

theorem opacityFor_eq (speaker target : SpeakerId) (ambient : Bool) :
    opacityFor speaker target ambient =
      if SpeakerId.isSet speaker && SpeakerId.isSet target then some (ruleOpacity speaker target ambient)
      else none := by
  unfold opacityFor ruleOpacity
  by_cases h : ((speaker == target) != ambient) = true <;>
    cases SpeakerId.isSet speaker <;> cases SpeakerId.isSet target <;> simp [h]

namespace Surface

/-- Whether the rule decides the surface's opacity: it has an element, a speaker and a target. -/
def Decided (s : Surface) : Bool :=
  s.hasElement && SpeakerId.isSet s.speaker && SpeakerId.isSet s.target

/-- The write the rule asks for, written out. -/
def ruleWrite (s : Surface) : OpacityWrite := ⟨s.id, ruleOpacity s.speaker s.target s.ambient⟩

theorem apply_eq (s : Surface) : s.apply = if s.Decided then some s.ruleWrite else none := by
  unfold apply Decided ruleWrite
  rw [opacityFor_eq]
  cases s.hasElement <;> cases SpeakerId.isSet s.speaker <;> cases SpeakerId.isSet s.target <;> simp

theorem call_write (s : Surface) (c : SurfaceCall) : (s.call c).2 = (s.call c).1.apply := by
  cases c <;> rfl

@[simp] theorem call_id (s : Surface) (c : SurfaceCall) : (s.call c).1.id = s.id := by
  cases c <;> rfl

theorem filterMap_apply (l : List Surface) : l.filterMap apply = (l.filter Decided).map ruleWrite := by
  rw [← List.filterMap_eq_map, List.filterMap_filter]
  congr 1
  funext s
  rw [apply_eq]
  rfl

end Surface

/-- A call on a set of caption surfaces: a call on the first surface with an
id, or on all of them at once. -/
inductive SetCall where
  | onSurface (id : String) (c : SurfaceCall)
  | setTargetAll (id : SpeakerId)
  | clearTargetAll
  deriving Repr, Inhabited

namespace CaptionSet

/-- The set after a call and the writes it made, in order. -/
def call (cs : CaptionSet) : SetCall → CaptionSet × List OpacityWrite
  | .onSurface id c =>
    match cs.update id (·.call c) with
    | some (cs', w) => (cs', w.toList)
    | none => (cs, [])
  | .setTargetAll id => cs.setTargetAll id
  | .clearTargetAll => (cs.clearTargetAll, [])

/-- The set after a sequence of calls. -/
def run (cs : CaptionSet) (calls : List SetCall) : CaptionSet :=
  calls.foldl (fun cs c => (cs.call c).1) cs

theorem setTargetAll_eq (cs : CaptionSet) (id : SpeakerId) :
    (cs.setTargetAll id).1.surfaces = cs.surfaces.map ({ · with target := id }) ∧
    (cs.setTargetAll id).2 = ((cs.setTargetAll id).1.surfaces.filter Surface.Decided).map Surface.ruleWrite :=
  ⟨rfl, Surface.filterMap_apply _⟩

end CaptionSet

/-! ## The elements beside their surfaces -/

/-- A caption surface beside the opacity its element shows: the last one
written to it, if any. -/
structure Shown where
  surface : Surface
  opacity : Option Float := none

namespace Shown

/-- The surface moves to the state a call leaves, and its element takes the
write the call made, if it made one. -/
def take (e : Shown) (r : Surface × Option OpacityWrite) : Shown :=
  ⟨r.1, (r.2.map (·.opacity)).or e.opacity⟩

/-- The target is cleared without applying the rule, if the surface's target
field is one that a pointer leave clears. -/
def clear (e : Shown) : Shown :=
  if TargetField.clearable e.surface.field then { e with surface := { e.surface with target := "" } }
  else e

/-- The element shows what the rule gives, whenever the surface has an element,
a speaker and a target. -/
def Faithful (e : Shown) : Prop :=
  e.surface.Decided → e.opacity = some (ruleOpacity e.surface.speaker e.surface.target e.surface.ambient)

theorem faithful_take_call (e : Shown) (c : SurfaceCall) : (e.take (e.surface.call c)).Faithful := by
  intro hd
  simp only [take] at hd ⊢
  rw [Surface.call_write, Surface.apply_eq, if_pos hd]
  rfl

theorem Faithful.clear {e : Shown} (h : e.Faithful) : e.clear.Faithful := by
  unfold Shown.clear
  split
  · intro hd
    simp [Surface.Decided, SpeakerId.isSet] at hd
  · exact h

theorem faithful_of_speaker {e : Shown} (h : e.surface.speaker = SpeakerId.none) : e.Faithful := by
  intro hd
  simp [Surface.Decided, SpeakerId.isSet, h, SpeakerId.none] at hd

end Shown

namespace Display

/-- The set the surfaces of a display form. -/
def set (d : List Shown) : CaptionSet := ⟨d.map Shown.surface⟩

/-- A call on the set, with each element taking the writes of its surface. -/
def step (d : List Shown) : SetCall → List Shown × List OpacityWrite
  | .onSurface id c =>
    match d.findIdx? (·.surface.id == id) with
    | none => (d, [])
    | some i =>
      match d[i]? with
      | none => (d, [])
      | some e => (d.set i (e.take (e.surface.call c)), (e.surface.call c).2.toList)
  | .setTargetAll id =>
    (d.map fun e => e.take (e.surface.call (.setTarget id)),
      d.filterMap fun e => (e.surface.call (.setTarget id)).2)
  | .clearTargetAll => (d.map Shown.clear, [])

/-- The display after a sequence of calls. -/
def run (d : List Shown) (calls : List SetCall) : List Shown :=
  calls.foldl (fun d c => (step d c).1) d

theorem step_eq (d : List Shown) (c : SetCall) :
    (set (step d c).1, (step d c).2) = (set d).call c := by
  cases c with
  | onSurface id c =>
    simp only [step, CaptionSet.call, CaptionSet.update, set, List.findIdx?_map]
    -- both sides look the surface up by its position among the entries
    cases hi : d.findIdx? (·.surface.id == id) with
    | none =>
      rw [show List.findIdx? ((·.id == id) ∘ Shown.surface) d = none from hi]
    | some i =>
      rw [show List.findIdx? ((·.id == id) ∘ Shown.surface) d = some i from hi]
      cases he : d[i]? with
      | none => simp [he]
      | some e => simp [he, Shown.take]
  | setTargetAll id =>
    simp only [step, CaptionSet.call, CaptionSet.setTargetAll, set, List.map_map, List.filterMap_map]
    rfl
  | clearTargetAll =>
    simp only [step, CaptionSet.call, CaptionSet.clearTargetAll, set, List.map_map]
    congr 2
    refine List.map_congr_left fun e _ => ?_
    by_cases h : TargetField.clearable e.surface.field <;> simp [Shown.clear, h]

/-- Every element of the display shows what its surface's rule gives. -/
def Faithful (d : List Shown) : Prop := ∀ e ∈ d, e.Faithful

/-- One call keeps every element faithful: the surfaces it calls apply their
rule, and the ones it clears decide nothing. -/
theorem Faithful.step {d : List Shown} (h : Faithful d) (c : SetCall) : Faithful (step d c).1 := by
  cases c with
  | onSurface id c =>
    simp only [Display.step]
    split
    · exact h
    · split
      · exact h
      · next e _ =>
        intro e' he'
        rcases List.mem_or_eq_of_mem_set he' with he' | rfl
        · exact h e' he'
        · exact Shown.faithful_take_call e c
  | setTargetAll id =>
    intro e' he'
    obtain ⟨e, -, rfl⟩ := List.mem_map.1 he'
    exact Shown.faithful_take_call e _
  | clearTargetAll =>
    intro e' he'
    obtain ⟨e, he, rfl⟩ := List.mem_map.1 he'
    exact (h e he).clear

theorem Faithful.run {d : List Shown} (h : Faithful d) (calls : List SetCall) : Faithful (run d calls) := by
  induction calls generalizing d with
  | nil => exact h
  | cons c calls ih => exact ih (h.step c)

theorem set_run (d : List Shown) (calls : List SetCall) : set (run d calls) = (set d).run calls := by
  induction calls generalizing d with
  | nil => rfl
  | cons c calls ih =>
    have h1 : set (step d c).1 = ((set d).call c).1 := congrArg Prod.fst (step_eq d c)
    calc set (run d (c :: calls))
        = set (run (step d c).1 calls) := rfl
      _ = (set (step d c).1).run calls := ih _
      _ = ((set d).call c).1.run calls := by rw [h1]
      _ = (set d).run (c :: calls) := rfl

end Display

/-- **Caption visibility.**  A call on one surface writes the rule's opacity
exactly when the state it leaves has an element, a speaker and a target; setting
every target sets them all before any rule runs, and clearing writes nothing.
From fresh surfaces, after any calls, every such element shows the rule's
opacity for its surface now. -/
theorem surface_visibility (init : List Surface)
    (hfresh : ∀ s ∈ init, s.speaker = SpeakerId.none ∧ s.target = SpeakerId.none) (calls : List SetCall) :
    (∀ (s : Surface) (c : SurfaceCall),
      (s.call c).2 = if (s.call c).1.Decided then some (s.call c).1.ruleWrite else none) ∧
    (∀ (cs : CaptionSet) (id : SpeakerId),
      (cs.setTargetAll id).1.surfaces = cs.surfaces.map ({ · with target := id }) ∧
      (cs.setTargetAll id).2 = ((cs.setTargetAll id).1.surfaces.filter Surface.Decided).map Surface.ruleWrite) ∧
    (∀ cs : CaptionSet, (cs.call .clearTargetAll).2 = []) ∧
    (Display.set (Display.run (init.map (⟨·, none⟩)) calls) = CaptionSet.run ⟨init⟩ calls ∧
      Display.Faithful (Display.run (init.map (⟨·, none⟩)) calls)) := by
  have hinit : Display.Faithful (init.map (⟨·, none⟩)) := by
    intro e he
    obtain ⟨s, hs, rfl⟩ := List.mem_map.1 he
    exact Shown.faithful_of_speaker (hfresh s hs).1
  refine ⟨fun s c => ?_, CaptionSet.setTargetAll_eq, fun _ => rfl, ?_, hinit.run calls⟩
  · rw [Surface.call_write, Surface.apply_eq]
  · rw [Display.set_run]
    simp [Display.set, Function.comp_def]

/-- The statement at a main and an ambient surface, after a speaker is given to
the main one and a target to both. -/
theorem surface_visibility_pair :
    (∀ s ∈ [({ id := "caption", field := TargetField.active, ambient := false } : Surface),
        { id := "ambientCaption", field := TargetField.active, ambient := true }],
      s.speaker = SpeakerId.none ∧ s.target = SpeakerId.none) ∧
    (∀ (s : Surface) (c : SurfaceCall),
      (s.call c).2 = if (s.call c).1.Decided then some (s.call c).1.ruleWrite else none) ∧
    (∀ (cs : CaptionSet) (id : SpeakerId),
      (cs.setTargetAll id).1.surfaces = cs.surfaces.map ({ · with target := id }) ∧
      (cs.setTargetAll id).2 = ((cs.setTargetAll id).1.surfaces.filter Surface.Decided).map Surface.ruleWrite) ∧
    (∀ cs : CaptionSet, (cs.call .clearTargetAll).2 = []) ∧
    (Display.set (Display.run ([({ id := "caption", field := TargetField.active, ambient := false } : Surface),
        { id := "ambientCaption", field := TargetField.active, ambient := true }].map (⟨·, none⟩))
        [.onSurface "caption" (.setSpeaker "juror-a"), .setTargetAll "juror-b"]) =
      CaptionSet.run ⟨[{ id := "caption", field := TargetField.active, ambient := false },
        { id := "ambientCaption", field := TargetField.active, ambient := true }]⟩
        [.onSurface "caption" (.setSpeaker "juror-a"), .setTargetAll "juror-b"] ∧
      Display.Faithful (Display.run ([({ id := "caption", field := TargetField.active, ambient := false } : Surface),
        { id := "ambientCaption", field := TargetField.active, ambient := true }].map (⟨·, none⟩))
        [.onSurface "caption" (.setSpeaker "juror-a"), .setTargetAll "juror-b"])) := by
  have hfresh : ∀ s ∈ [({ id := "caption", field := TargetField.active, ambient := false } : Surface),
      { id := "ambientCaption", field := TargetField.active, ambient := true }],
      s.speaker = SpeakerId.none ∧ s.target = SpeakerId.none := by
    simp [SpeakerId.none]
  exact ⟨hfresh, surface_visibility _ hfresh _⟩

end JuryCaptions
