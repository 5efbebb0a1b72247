import JuryCaptions.Viewing.Viewer
import Mathlib
import JuryCaptions.Proofs.Viewing.Session
/-!
# The layout of a viewing session

A session runs the same entities in the same order all its life (the HUD anchor,
the two caption surfaces, the indicator, a marker per speaker) and keeps its two
surfaces: `Laid`, made by `Laid.build` and kept by `Laid.take`.
-/

namespace JuryCaptions
namespace Viewing

/-- An event of a viewing session. Each takes the session's frame lock, so
none runs in the middle of another. -/
inductive SessionEvent where
  /-- An input command from the rendering host. -/
  | input (e : Dispatch.Event)
  /-- A caption shown to every entity. -/
  | showCaption (c : Caption)
  /-- One frame of length `dt`. -/
  | step (dt : Duration)

namespace Viewer

/-- Takes an event. -/
def take (v : Viewer) : SessionEvent → Viewer
  | .input e => (v.dispatch e).1
  | .showCaption c => v.showCaption c
  | .step dt => v.step dt

/-- Takes events in order. -/
def takeAll (v : Viewer) (events : List SessionEvent) : Viewer := events.foldl take v

end Viewer

/-- A marker entity with its source and the speakers its updater has found missing. -/
def markerEntity (offset : Indicator.Offset) (colors : Indicator.Colors) (marker : String)
    (source : MarkerSource) (missing : List SpeakerId) : Entity :=
  ⟨marker, [.indicator marker source (some { offset, colors, missing })]⟩

/-- The entities of a session that keep no state of their own: the anchor and
the two caption surfaces. -/
def fixedEntities (height : Float) : List Entity :=
  [⟨anchorEntity, [.stayBelow (some anchorEntity) height true, .turnWithRig (some anchorEntity)]⟩,
   ⟨captionEntity, [.caption (some captionEntity)]⟩,
   ⟨ambientEntity, [.caption (some ambientEntity)]⟩]

/-- One marker for each configured speaker. -/
def speakerMarkers (offset : Indicator.Offset) (colors : Indicator.Colors)
    (markers : List (SpeakerId × List SpeakerId)) : List Entity :=
  markers.map fun (id, m) => markerEntity offset colors (markerOf id) (.follow id true) m

/-- The entities of a session in the order they run. -/
def sessionEntities (height : Float) (offset : Indicator.Offset) (colors : Indicator.Colors)
    (missing : List SpeakerId) (markers : List (SpeakerId × List SpeakerId)) : List Entity :=
  fixedEntities height ++
    markerEntity offset colors indicatorEntity (.surface captionEntity) missing ::
    speakerMarkers offset colors markers

/-- The two caption surfaces of a session: the main one, then the ambient one,
each with an element. -/
def Paired (cs : CaptionSet) : Prop :=
  ∃ p a, cs.surfaces = [p, a] ∧ p.id = captionEntity ∧ p.ambient = false ∧ p.hasElement = true ∧
    a.id = ambientEntity ∧ a.ambient = true ∧ a.hasElement = true

/-- A session laid out from an anchor height, a marker offset, marker colours
and the configured speakers. -/
structure Laid (height : Float) (offset : Indicator.Offset) (colors : Indicator.Colors)
    (ids : List SpeakerId) (v : Viewer) : Prop where
  paired : Paired v.world.captions
  entities : ∃ missing markers, markers.map (·.1) = ids ∧
    v.loop.entities = sessionEntities height offset colors missing markers

/-! ## The caption surfaces -/

namespace Paired

variable {cs : CaptionSet}

theorem setTargetAll (h : Paired cs) (id : SpeakerId) : Paired (cs.setTargetAll id).1 := by
  obtain ⟨p, a, hs, h1, h2, h3, h4, h5, h6⟩ := h
  exact ⟨{ p with target := id }, { a with target := id }, by simp [CaptionSet.setTargetAll, hs],
    h1, h2, h3, h4, h5, h6⟩

theorem clearTargetAll (h : Paired cs) : Paired cs.clearTargetAll := by
  obtain ⟨p, a, hs, h1, h2, h3, h4, h5, h6⟩ := h
  -- clearing a target keeps everything the pair speaks of
  have keep : ∀ s : Surface,
      (if TargetField.clearable s.field then { s with target := "" } else s).id = s.id ∧
      (if TargetField.clearable s.field then { s with target := "" } else s).ambient = s.ambient ∧
      (if TargetField.clearable s.field then { s with target := "" } else s).hasElement = s.hasElement := by
    intro s
    split <;> exact ⟨rfl, rfl, rfl⟩
  obtain ⟨k1, k2, k3⟩ := keep p
  obtain ⟨k4, k5, k6⟩ := keep a
  exact ⟨_, _, by simp only [CaptionSet.clearTargetAll, hs, List.map_cons, List.map_nil],
    k1.trans h1, k2.trans h2, k3.trans h3, k4.trans h4, k5.trans h5, k6.trans h6⟩

/-- Changing a surface in a way that keeps its id, its kind and its element keeps the pair. -/
theorem update (h : Paired cs) {id : String} {f : Surface → Surface × Option OpacityWrite}
    (hf : ∀ s, (f s).1.id = s.id ∧ (f s).1.ambient = s.ambient ∧ (f s).1.hasElement = s.hasElement)
    {cs' : CaptionSet} {o : Option OpacityWrite} (hu : cs.update id f = some (cs', o)) : Paired cs' := by
  obtain ⟨p, a, hs, h1, h2, h3, h4, h5, h6⟩ := h
  unfold CaptionSet.update at hu
  rw [hs] at hu
  split at hu
  · cases hu
  · next i _ =>
    split at hu
    · cases hu
    · next s hi =>
      obtain ⟨rfl, -⟩ := Prod.mk.inj (Option.some.inj hu)
      -- the index found is one of the two
      have hi2 : i < 2 := by
        have := (List.getElem?_eq_some_iff.1 hi).1
        simpa using this
      obtain ⟨hid, hamb, hel⟩ := hf s
      obtain rfl | rfl : i = 0 ∨ i = 1 := by omega
      · obtain rfl : s = p := by simpa using hi.symm
        exact ⟨_, _, rfl, hid.trans h1, hamb.trans h2, hel.trans h3, h4, h5, h6⟩
      · obtain rfl : s = a := by simpa using hi.symm
        exact ⟨_, _, rfl, h1, h2, h3, hid.trans h4, hamb.trans h5, hel.trans h6⟩

end Paired

theorem setSpeaker_keeps (s : Surface) (id : SpeakerId) :
    (s.setSpeaker id).1.id = s.id ∧ (s.setSpeaker id).1.ambient = s.ambient ∧
      (s.setSpeaker id).1.hasElement = s.hasElement := ⟨rfl, rfl, rfl⟩

theorem setTarget_keeps (s : Surface) (id : SpeakerId) :
    (s.setTarget id).1.id = s.id ∧ (s.setTarget id).1.ambient = s.ambient ∧
      (s.setTarget id).1.hasElement = s.hasElement := ⟨rfl, rfl, rfl⟩

theorem Paired.onSurface {w : World} (h : Paired w.captions) {id : String}
    {f : Surface → Surface × Option OpacityWrite}
    (hf : ∀ s, (f s).1.id = s.id ∧ (f s).1.ambient = s.ambient ∧ (f s).1.hasElement = s.hasElement) :
    Paired (w.onSurface id f).captions := by
  unfold World.onSurface
  split
  · next cs o hu =>
    obtain ⟨store, patches, logs, he⟩ := World.writeOpacities_frame { w with captions := cs } o.toList
    rw [he]
    exact h.update hf hu
  · exact h

/-! ## Input and captions keep the pair -/

namespace Paired

variable {w : World}

theorem key (h : Paired w.captions) (c : Controller) (k : String) : Paired (c.key k w).1.captions := by
  unfold Controller.key
  dsimp only
  split
  · exact h
  · split
    · exact h
    · split
      · next id _ =>
        obtain ⟨store, patches, logs, he⟩ := Controller.setTarget_frame id keyInput w
        rw [he]
        exact h.setTargetAll id
      · exact h

theorem perform (h : Paired w.captions) (c : Controller) (call : InputCall) :
    Paired (c.perform w call).captions := by
  cases call with
  | key k => exact h.key c k
  | click id =>
    obtain ⟨store, patches, logs, he⟩ := Controller.setTarget_frame id clickInput w
    rw [Controller.perform, Controller.click, he]
    exact h.setTargetAll id
  | leave =>
    rw [Controller.perform, Controller.leave_eq]
    exact h.clearTargetAll
  | position id offset parent => exact h
  | gone id => exact h
  | camera p => exact h

theorem handle (h : Paired w.captions) (c : Controller) (e : Dispatch.Event) :
    Paired (c.handle e w).1.captions := by
  rcases Controller.handle_performs c e w with he | ⟨call, he⟩ <;> rw [he]
  · exact h
  · exact h.perform c call

theorem hear (h : Paired w.captions) (b : Behaviour) (d : Delivery) : Paired (b.hear d w).captions := by
  unfold Behaviour.hear
  split
  · exact h.onSurface (setSpeaker_keeps · _)
  · next id speaker target =>
    -- a change sets the speaker first, then the target
    cases speaker with
    | some s =>
      have hs : Paired (w.onSurface id fun sf => sf.setSpeaker s).captions :=
        h.onSurface (setSpeaker_keeps · s)
      cases target with
      | some t => exact hs.onSurface (setTarget_keeps · t)
      | none => exact hs
    | none =>
      cases target with
      | some t => exact h.onSurface (setTarget_keeps · t)
      | none => exact h
  · exact h
  · exact h

theorem entityHear (h : Paired w.captions) (e : Entity) (d : Delivery) : Paired (e.hear d w).captions := by
  unfold Entity.hear
  induction e.behaviours generalizing w with
  | nil => exact h
  | cons b bs ih => exact ih (h.hear b d)

theorem broadcast (h : Paired w.captions) (l : Loop) (d : Delivery) : Paired (l.broadcast d w).captions := by
  unfold Loop.broadcast
  induction l.entities generalizing w with
  | nil => exact h
  | cons e es ih => exact ih (h.entityHear e d)

end Paired

/-! ## What a frame leaves alone -/

/-- Runs `f` on each element in order, threading a state through, and collects
what it returns for each. -/
def threadMap {α σ : Type} (f : α → σ → α × σ) : List α → σ → List α × σ
  | [], s => ([], s)
  | a :: as, s =>
    let r := f a s
    let rs := threadMap f as r.2
    (r.1 :: rs.1, rs.2)

theorem threadMap_append {α σ : Type} (f : α → σ → α × σ) (as bs : List α) (s : σ) :
    threadMap f (as ++ bs) s =
      ((threadMap f as s).1 ++ (threadMap f bs (threadMap f as s).2).1,
        (threadMap f bs (threadMap f as s).2).2) := by
  induction as generalizing s with
  | nil => rfl
  | cons a as ih =>
    rw [List.cons_append]
    simp only [threadMap, ih, List.cons_append]

theorem foldl_thread {α σ : Type} (f : α → σ → α × σ) (as acc : List α) (s : σ) :
    as.foldl (fun (acc, s) a => let (a', s') := f a s; (acc ++ [a'], s')) (acc, s) =
      (acc ++ (threadMap f as s).1, (threadMap f as s).2) := by
  induction as generalizing acc s with
  | nil => simp [threadMap]
  | cons a as ih =>
    rw [List.foldl_cons]
    simp only [threadMap]
    rw [ih]
    simp

theorem Entity.tick_eq (e : Entity) (dt : Duration) (w : World) :
    e.tick dt w = ({ e with behaviours := (threadMap (·.tick dt) e.behaviours w).1 },
      (threadMap (·.tick dt) e.behaviours w).2) := by
  unfold Entity.tick
  rw [foldl_thread (fun (b : Behaviour) w => b.tick dt w)]
  rfl

theorem Loop.step_eq (l : Loop) (dt : Duration) (w : World) :
    l.step dt w = (⟨(threadMap (·.tick dt) l.entities w).1, l.frames + 1⟩,
      (threadMap (·.tick dt) l.entities w).2) := by
  unfold Loop.step
  rw [foldl_thread (fun (e : Entity) w => e.tick dt w)]
  rfl

/-- What a frame leaves alone: the caption surfaces, the speakers, and the
rig's camera and turn. -/
structure FrameKeeps (w w' : World) : Prop where
  captions : w'.captions = w.captions
  registry : w'.registry = w.registry
  camera : w'.rig.camera = w.rig.camera
  yaw : w'.rig.yaw = w.rig.yaw

namespace FrameKeeps

theorem refl (w : World) : FrameKeeps w w := ⟨rfl, rfl, rfl, rfl⟩

theorem trans {w₁ w₂ w₃ : World} (h₁ : FrameKeeps w₁ w₂) (h₂ : FrameKeeps w₂ w₃) : FrameKeeps w₁ w₃ :=
  ⟨h₂.captions.trans h₁.captions, h₂.registry.trans h₁.registry, h₂.camera.trans h₁.camera,
    h₂.yaw.trans h₁.yaw⟩

theorem write (w : World) (entity attr : String) (v : SceneValue) : FrameKeeps w (w.write entity attr v) := by
  obtain ⟨patches, logs, he⟩ := World.write_frame w entity attr v
  rw [he]
  exact ⟨rfl, rfl, rfl, rfl⟩

theorem foldl {α : Type} {g : World → α → World} (hg : ∀ w a, FrameKeeps w (g w a)) (as : List α) (w : World) :
    FrameKeeps w (as.foldl g w) := by
  induction as generalizing w with
  | nil => exact refl w
  | cons a as ih => exact (hg w a).trans (ih (g w a))

theorem threadMap {α : Type} {f : α → World → α × World} (hf : ∀ a w, FrameKeeps w (f a w).2)
    (as : List α) (w : World) : FrameKeeps w (Viewing.threadMap f as w).2 := by
  induction as generalizing w with
  | nil => exact refl w
  | cons a as ih => exact (hf a w).trans (ih (f a w).2)

theorem writeOpacities (w : World) (ws : List OpacityWrite) : FrameKeeps w (w.writeOpacities ws) :=
  foldl (g := fun w (o : OpacityWrite) => w.write o.surface Attr.opacity (.float o.opacity))
    (fun w o => write w o.surface Attr.opacity (.float o.opacity)) ws w

theorem moveAnchor {w w₁ : World} (h : FrameKeeps w w₁) (move : Bool) (p : Vec3) :
    FrameKeeps w (if move then { w₁ with rig := { w₁.rig with anchor := p } } else w₁) := by
  cases move with
  | true => exact ⟨h.captions, h.registry, h.camera, h.yaw⟩
  | false => exact h

/-- No behaviour changes the surfaces, the speakers, the camera or the turn in a frame. -/
theorem tick (b : Behaviour) (dt : Duration) (w : World) : FrameKeeps w (b.tick dt w).2 := by
  cases b with
  | caption surface =>
    cases surface with
    | none => exact refl w
    | some id =>
      simp only [Behaviour.tick]
      split
      · exact writeOpacities w _
      · exact refl w
  | indicator marker source updater =>
    cases updater with
    | none => exact refl w
    | some u =>
      simp only [Behaviour.tick]
      exact (foldl (fun w m => by cases m <;> exact write _ _ _ _) _ w).trans ⟨rfl, rfl, rfl, rfl⟩
  | stayBelow element height moveAnchor =>
    simp only [Behaviour.tick]
    cases element with
    | some el => exact (write w el Attr.position _).moveAnchor moveAnchor _
    | none => exact (refl w).moveAnchor moveAnchor _
  | turnWithRig element =>
    cases element with
    | some el => exact write w el Attr.yaw _
    | none => exact refl w
  | probe name failure => exact ⟨rfl, rfl, rfl, rfl⟩

theorem entityTick (e : Entity) (dt : Duration) (w : World) : FrameKeeps w (e.tick dt w).2 := by
  rw [Entity.tick_eq]
  exact threadMap (fun b w => tick b dt w) e.behaviours w

theorem step (l : Loop) (dt : Duration) (w : World) : FrameKeeps w (l.step dt w).2 := by
  rw [Loop.step_eq]
  exact threadMap (fun e w => entityTick e dt w) l.entities w

end FrameKeeps

/-! ## A frame keeps the entities -/

theorem Indicator.Updater.tick_updater (u : Indicator.Updater) (speaker : SpeakerId) (active : Bool)
    (anchor : Vec3) (resolve : SpeakerId → Option Vec3) :
    (u.tick speaker active anchor resolve).updater =
      { u with missing := (u.tick speaker active anchor resolve).updater.missing } := by
  unfold Indicator.Updater.tick
  by_cases hs : SpeakerId.isSet speaker = true
  · cases hr : resolve speaker with
    | none => by_cases hc : speaker ∈ u.missing <;> simp [hs, hc]
    | some pos => by_cases hc : speaker ∈ u.missing <;> simp [hs, hc]
  · simp [hs]

theorem tick_markerEntity (offset : Indicator.Offset) (colors : Indicator.Colors) (marker : String)
    (source : MarkerSource) (missing : List SpeakerId) (dt : Duration) (w : World) :
    ((markerEntity offset colors marker source missing).tick dt w).1 =
      markerEntity offset colors marker source
        (({ offset, colors, missing } : Indicator.Updater).tick (source.view w).1 (source.view w).2
          w.rig.anchor w.registry.resolve).updater.missing := by
  rw [Entity.tick_eq]
  simp only [markerEntity, threadMap, Behaviour.tick]
  rw [Indicator.Updater.tick_updater]

theorem tick_fixedEntities (height : Float) (dt : Duration) (w : World) :
    (threadMap (·.tick dt) (fixedEntities height) w).1 = fixedEntities height := by
  simp only [fixedEntities, threadMap, Entity.tick_eq, Behaviour.tick]
  congr 2 <;> split <;> rfl

theorem tick_speakerMarkers (offset : Indicator.Offset) (colors : Indicator.Colors)
    (markers : List (SpeakerId × List SpeakerId)) (dt : Duration) (w : World) :
    ∃ markers' : List (SpeakerId × List SpeakerId), markers'.map (·.1) = markers.map (·.1) ∧
      (threadMap (·.tick dt) (speakerMarkers offset colors markers) w).1 =
        speakerMarkers offset colors markers' := by
  induction markers generalizing w with
  | nil => exact ⟨[], rfl, rfl⟩
  | cons x markers ih =>
    obtain ⟨id, m⟩ := x
    obtain ⟨markers', hids, he⟩ :=
      ih ((markerEntity offset colors (markerOf id) (.follow id true) m).tick dt w).2
    refine ⟨(id, (({ offset, colors, missing := m } : Indicator.Updater).tick
      ((MarkerSource.follow id true).view w).1 ((MarkerSource.follow id true).view w).2
      w.rig.anchor w.registry.resolve).updater.missing) :: markers', by simp [hids], ?_⟩
    simp only [speakerMarkers, List.map_cons, threadMap] at he ⊢
    rw [he, tick_markerEntity]

theorem tick_sessionEntities (height : Float) (offset : Indicator.Offset) (colors : Indicator.Colors)
    (missing : List SpeakerId) (markers : List (SpeakerId × List SpeakerId)) (dt : Duration) (w : World) :
    ∃ missing' markers', markers'.map (·.1) = markers.map (·.1) ∧
      (threadMap (·.tick dt) (sessionEntities height offset colors missing markers) w).1 =
        sessionEntities height offset colors missing' markers' := by
  let w₁ := (threadMap (·.tick dt) (fixedEntities height) w).2
  let indicator := markerEntity offset colors indicatorEntity (.surface captionEntity) missing
  let view := (MarkerSource.surface captionEntity).view w₁
  obtain ⟨markers', hids, hm⟩ := tick_speakerMarkers offset colors markers dt (indicator.tick dt w₁).2
  refine ⟨(({ offset, colors, missing } : Indicator.Updater).tick view.1 view.2 w₁.rig.anchor
    w₁.registry.resolve).updater.missing, markers', hids, ?_⟩
  rw [sessionEntities, threadMap_append, tick_fixedEntities]
  simp only [threadMap]
  rw [hm, tick_markerEntity, sessionEntities]

/-! ## Every event keeps the layout -/

namespace Laid

variable {height : Float} {offset : Indicator.Offset} {colors : Indicator.Colors} {ids : List SpeakerId}

theorem take {v : Viewer} (h : Laid height offset colors ids v) (e : SessionEvent) :
    Laid height offset colors ids (v.take e) := by
  cases e with
  | input e => exact ⟨h.paired.handle v.controller e, h.entities⟩
  | showCaption c => exact ⟨h.paired.broadcast v.loop (.caption c), h.entities⟩
  | step dt =>
    obtain ⟨missing, markers, hids, he⟩ := h.entities
    obtain ⟨missing', markers', hids', he'⟩ :=
      tick_sessionEntities height offset colors missing markers dt v.world
    have hc := (FrameKeeps.step v.loop dt v.world).captions
    refine ⟨?_, missing', markers', hids'.trans hids, ?_⟩
    · show Paired (v.loop.step dt v.world).2.captions
      rw [hc]
      exact h.paired
    · show (v.loop.step dt v.world).1.entities = _
      rw [Loop.step_eq, he]
      exact he'

theorem takeAll {v : Viewer} (h : Laid height offset colors ids v) (events : List SessionEvent) :
    Laid height offset colors ids (v.takeAll events) := by
  induction events generalizing v with
  | nil => exact h
  | cons e events ih => exact ih (h.take e)

end Laid

/-! ## Assembling a session lays it out -/

theorem Behaviour.init_captions (b : Behaviour) (w : World) : (b.init w).1.captions = w.captions := by
  cases b with
  | caption surface =>
    cases surface with
    | none => rfl
    | some id =>
      simp only [Behaviour.init]
      split
      · exact (FrameKeeps.writeOpacities w _).captions
      · rfl
  | indicator marker source updater => cases updater <;> rfl
  | stayBelow element height moveAnchor => rfl
  | turnWithRig element =>
    cases element with
    | some el => exact (FrameKeeps.write w el Attr.yaw _).captions
    | none => rfl
  | probe name failure => rfl

theorem Entity.init_captions (e : Entity) (w : World) : (e.init w).1.captions = w.captions := by
  unfold Entity.init
  induction e.behaviours generalizing w with
  | nil => rfl
  | cons b bs ih =>
    have hb := Behaviour.init_captions b w
    simp only [Entity.init.go]
    split
    · next w' f h =>
      rw [h] at hb
      exact hb
    · next w' h =>
      rw [h] at hb
      rw [ih w', hb]

theorem addAll_ok {l l' : Loop} {w w' : World} {es : List Entity}
    (h : Viewer.addAll l w es = .ok (l', w')) : l'.entities = l.entities ++ es ∧ w'.captions = w.captions := by
  induction es generalizing l w with
  | nil =>
    simp only [Viewer.addAll, Except.ok.injEq, Prod.mk.injEq] at h
    obtain ⟨rfl, rfl⟩ := h
    exact ⟨(List.append_nil _).symm, rfl⟩
  | cons e es ih =>
    have he := Entity.init_captions e w
    simp only [Viewer.addAll, Loop.add] at h
    cases hi : e.init w with
    | mk w₁ f =>
      rw [hi] at h he
      cases f with
      | some f => cases h
      | none =>
        obtain ⟨hl, hw⟩ := ih h
        exact ⟨by rw [hl, List.append_assoc]; rfl, hw.trans he⟩

theorem Laid.build {cfg : ViewerConfig} {recording : Bool} {v : Viewer} {offset : Indicator.Offset}
    {colors : Indicator.Colors} {ids : List SpeakerId} (hv : Viewer.build cfg recording = .ok v)
    (ho : Indicator.Offset.parse cfg.indicatorOffset = .ok offset)
    (hc : Indicator.Colors.parse cfg.colors = .ok colors)
    (hi : cfg.speakers.mapM SpeakerId.parse = .ok ids) :
    Laid cfg.anchorHeight offset colors ids v := by
  unfold Viewer.build at hv
  cases hf : TargetField.parse cfg.targetField with
  | error f => simp [hf, Except.mapError, bind, Except.bind] at hv
  | ok field =>
  cases hk : KeyMap.ofTable cfg.keys with
  | error e => simp [hf, ho, hc, hk, Except.mapError, bind, Except.bind] at hv
  | ok keys =>
  simp only [hf, ho, hc, hk, hi, Except.mapError, bind, Except.bind] at hv
  split at hv
  · cases hv
  · next l lw ha =>
    split at ha
    · cases ha
    · next r hr =>
      cases ha
      cases hv
      obtain ⟨hl, hw⟩ := addAll_ok hr
      refine ⟨?_, [], ids.map ((·, [])), by simp [Function.comp_def], ?_⟩
      · rw [hw]
        exact ⟨_, _, rfl, rfl, rfl, rfl, rfl, rfl, rfl⟩
      · rw [hl]
        simp [sessionEntities, fixedEntities, speakerMarkers, markerEntity]

/-! ## Settings that parse assemble a session -/

theorem get?_pair {cs : CaptionSet} {p a : Surface} (hs : cs.surfaces = [p, a])
    (hp : p.id = captionEntity) (ha : a.id = ambientEntity) :
    cs.get? captionEntity = some p ∧ cs.get? ambientEntity = some a := by
  have hne : captionEntity ≠ ambientEntity := by decide
  simp [CaptionSet.get?, hs, hp, ha, hne]

theorem init_sessionEntity {e : Entity} {height : Float} {offset : Indicator.Offset}
    {colors : Indicator.Colors} {ids : List SpeakerId}
    (he : e ∈ fixedEntities height ++ markerEntity offset colors indicatorEntity (.surface captionEntity) [] ::
      ids.map fun id => markerEntity offset colors (markerOf id) (.follow id true) [])
    {w : World} (hw : Paired w.captions) : (e.init w).2 = none := by
  obtain ⟨p, a, hs, hp, -, -, ha, -, -⟩ := hw
  obtain ⟨hgp, hga⟩ := get?_pair hs hp ha
  simp only [fixedEntities, List.cons_append, List.nil_append, List.mem_cons, List.mem_map] at he
  rcases he with rfl | rfl | rfl | rfl | ⟨id, -, rfl⟩
  · rfl
  · simp [Entity.init, Entity.init.go, Behaviour.init, hgp]
  · simp [Entity.init, Entity.init.go, Behaviour.init, hga]
  · rfl
  · rfl

theorem addAll_ne_error {l : Loop} {w : World} {es : List Entity}
    (hes : ∀ e ∈ es, ∀ w : World, Paired w.captions → (e.init w).2 = none) (hw : Paired w.captions)
    (f : Fault) : Viewer.addAll l w es ≠ .error f := by
  induction es generalizing l w with
  | nil => simp [Viewer.addAll]
  | cons e es ih =>
    have he := hes e List.mem_cons_self w hw
    have hc := Entity.init_captions e w
    simp only [Viewer.addAll, Loop.add]
    cases hi : e.init w with
    | mk w₁ f₁ =>
      rw [hi] at he hc
      dsimp only at he hc
      subst he
      exact ih (fun e' he' => hes e' (List.mem_cons_of_mem _ he')) (hc ▸ hw)

theorem Viewer.build_ok {cfg : ViewerConfig} (recording : Bool) {field : TargetField}
    {offset : Indicator.Offset} {colors : Indicator.Colors} {keys : KeyMap} {ids : List SpeakerId}
    (hf : TargetField.parse cfg.targetField = .ok field)
    (ho : Indicator.Offset.parse cfg.indicatorOffset = .ok offset)
    (hc : Indicator.Colors.parse cfg.colors = .ok colors) (hk : KeyMap.ofTable cfg.keys = .ok keys)
    (hi : cfg.speakers.mapM SpeakerId.parse = .ok ids) :
    ∃ v, Viewer.build cfg recording = .ok v := by
  unfold Viewer.build
  simp only [hf, ho, hc, hk, hi, Except.mapError, bind, Except.bind]
  split
  · next f hae =>
    split at hae
    · next err hadd =>
      have hw : Paired { surfaces := [{ id := captionEntity, field, ambient := false },
          { id := ambientEntity, field, ambient := true }] } :=
        ⟨_, _, rfl, rfl, rfl, rfl, rfl, rfl, rfl⟩
      exact absurd hadd (addAll_ne_error (fun e he w hw => init_sessionEntity he hw) hw err)
    · cases hae
  · exact ⟨_, rfl⟩

end Viewing
end JuryCaptions
