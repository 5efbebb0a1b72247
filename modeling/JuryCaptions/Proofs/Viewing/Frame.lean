import JuryCaptions.Proofs.Viewing.Layout
import JuryCaptions.Proofs.Caption.Visibility
import JuryCaptions.Proofs.Scene.Sink
/-!
# Every frame leaves the scene consistent

A frame runs the entities in the order they joined: the HUD anchor, the two
caption surfaces, the indicator and one marker per speaker. Right after it
every set surface shows its rule's opacity, the anchor sits at the camera, and
every placed marker is aimed at its speaker and coloured by whether it is active
(`frame_consistency`). The store drops a write of a value it holds, so values
are held up to its comparison (`SceneStore.Holds`); each entity writes only its
own attributes (`Confined`).
-/

namespace JuryCaptions

namespace SceneStore

/-- The store holds a value for an attribute: that value, or one that compares
equal to it, which a write of the value leaves in place. -/
def Holds (s : SceneStore) (entity attr : String) (v : SceneValue) : Prop :=
  ∃ u, s.get? entity attr = some u ∧ (u = v ∨ u.same v = true)

variable {s : SceneStore} {entity attr : String} {v : SceneValue}

theorem get?_set_of_ne {e a : String} (h : ¬ (e = entity ∧ a = attr)) :
    (s.set entity attr v).1.get? e a = s.get? e a := by
  rcases set_cases s entity attr v with ⟨u, -, -, he⟩ | ⟨u, hu, -, he⟩ | ⟨hu, he⟩
  · rw [he]
  · rw [he, get?_replace e a (by rw [hu]; rfl), if_neg h]
  · rw [he, get?_append_new e a hu, if_neg h]

theorem holds_set : (s.set entity attr v).1.Holds entity attr v := by
  rcases set_cases s entity attr v with ⟨u, hu, hs, he⟩ | ⟨u, hu, -, he⟩ | ⟨hu, he⟩ <;> rw [he]
  · exact ⟨u, hu, .inr hs⟩
  · exact ⟨v, by rw [get?_replace entity attr (by rw [hu]; rfl), if_pos ⟨rfl, rfl⟩], .inl rfl⟩
  · exact ⟨v, by rw [get?_append_new entity attr hu, if_pos ⟨rfl, rfl⟩], .inl rfl⟩

end SceneStore

namespace Viewing

theorem World.holds_write (w : World) (entity attr : String) (v : SceneValue) :
    (w.write entity attr v).store.Holds entity attr v := by
  obtain ⟨patches, logs, he⟩ := World.write_frame w entity attr v
  rw [he]
  exact SceneStore.holds_set

/-! ## Changes confined to a few attributes -/

/-- A change within a frame that writes the store only where `K` allows, moves
no anchor, and leaves alone what every frame leaves alone. -/
structure Confined (K : String → String → Prop) (w w' : World) : Prop extends FrameKeeps w w' where
  anchor : w'.rig.anchor = w.rig.anchor
  store : ∀ e a, ¬ K e a → w'.store.get? e a = w.store.get? e a

namespace Confined

variable {K K' : String → String → Prop} {w w' w₁ w₂ : World}

theorem refl (K : String → String → Prop) (w : World) : Confined K w w :=
  ⟨FrameKeeps.refl w, rfl, fun _ _ _ => rfl⟩

theorem trans (h₁ : Confined K w w₁) (h₂ : Confined K' w₁ w₂) :
    Confined (fun e a => K e a ∨ K' e a) w w₂ :=
  ⟨h₁.toFrameKeeps.trans h₂.toFrameKeeps, h₂.anchor.trans h₁.anchor,
    fun e a hk => (h₂.store e a fun h => hk (.inr h)).trans (h₁.store e a fun h => hk (.inl h))⟩

theorem mono (h : Confined K w w') (hK : ∀ e a, K e a → K' e a) : Confined K' w w' :=
  ⟨h.toFrameKeeps, h.anchor, fun e a hk => h.store e a fun h => hk (hK e a h)⟩

theorem holds (h : Confined K w w') {e a : String} (hk : ¬ K e a) {v : SceneValue}
    (hv : w.store.Holds e a v) : w'.store.Holds e a v := by
  rw [SceneStore.Holds, h.store e a hk]
  exact hv

theorem write (w : World) (entity attr : String) (v : SceneValue) :
    Confined (fun e a => e = entity ∧ a = attr) w (w.write entity attr v) := by
  obtain ⟨patches, logs, he⟩ := World.write_frame w entity attr v
  rw [he]
  exact ⟨⟨rfl, rfl, rfl, rfl⟩, rfl, fun e a hk => SceneStore.get?_set_of_ne hk⟩

theorem logAll (K : String → String → Prop) (w : World) (rs : List LogRecord) :
    Confined K w (w.logAll rs) :=
  ⟨⟨rfl, rfl, rfl, rfl⟩, rfl, fun _ _ _ => rfl⟩

end Confined

/-! ## Names apart -/

theorem captionEntity_ne_ambientEntity : captionEntity ≠ ambientEntity := by decide

theorem markerOf_ne_indicatorEntity (id : SpeakerId) : markerOf id ≠ indicatorEntity := by
  intro h
  have hl := congrArg String.length h
  have h₁ : (indicatorEntity ++ "-").length = 10 := by decide
  have h₂ : indicatorEntity.length = 9 := by decide
  rw [markerOf, String.length_append, h₁, h₂] at hl
  omega

theorem markerOf_inj {a b : SpeakerId} (h : markerOf a = markerOf b) : a = b :=
  (String.append_right_inj (indicatorEntity ++ "-")).mp h

/-! ## The anchor -/

/-- The anchor's frame puts it at the camera's position with the anchor height,
in the store and as the rig's anchor, and gives it the rig's turn; it writes
nothing else. -/
theorem tick_anchor (height : Float) (dt : Duration) (w : World) :
    let w' := ((⟨anchorEntity, [.stayBelow (some anchorEntity) height true,
      .turnWithRig (some anchorEntity)]⟩ : Entity).tick dt w).2
    FrameKeeps w w' ∧ w'.rig.anchor = { w.rig.camera with y := height } ∧
      w'.store.Holds anchorEntity Attr.position (.vec w'.rig.anchor) ∧
      w'.store.Holds anchorEntity Attr.yaw (.float w'.rig.yaw) ∧
      ∀ e a, a ≠ Attr.position → a ≠ Attr.yaw → w'.store.get? e a = w.store.get? e a := by
  intro w'
  let p : Vec3 := { w.rig.camera with y := height }
  let w₀ := w.write anchorEntity Attr.position (.vec p)
  let w₁ : World := { w₀ with rig := { w₀.rig with anchor := p } }
  have hw' : w' = w₁.write anchorEntity Attr.yaw (.float w₁.rig.yaw) := by
    simp only [w', Entity.tick_eq, threadMap, Behaviour.tick, ↓reduceIte]
    rfl
  have hk₀ := FrameKeeps.write w anchorEntity Attr.position (.vec p)
  have hk₁ : FrameKeeps w w₁ := ⟨hk₀.captions, hk₀.registry, hk₀.camera, hk₀.yaw⟩
  have hc₂ := Confined.write w₁ anchorEntity Attr.yaw (.float w₁.rig.yaw)
  rw [← hw'] at hc₂
  have hpos : ¬ (anchorEntity = anchorEntity ∧ Attr.position = Attr.yaw) := by decide
  refine ⟨⟨?_, ?_, ?_, ?_⟩, hc₂.anchor, ?_, ?_, ?_⟩
  · exact hc₂.captions.trans hk₁.captions
  · exact hc₂.registry.trans hk₁.registry
  · exact hc₂.camera.trans hk₁.camera
  · exact hc₂.yaw.trans hk₁.yaw
  · rw [hc₂.anchor]
    exact hc₂.holds hpos (World.holds_write w anchorEntity Attr.position (.vec p))
  · rw [hc₂.yaw, hw']
    exact World.holds_write w₁ anchorEntity Attr.yaw _
  · intro e a hp hy
    rw [hc₂.store e a fun h => hy h.2]
    exact (Confined.write w anchorEntity Attr.position (.vec p)).store e a fun h => hp h.2

/-! ## The caption surfaces -/

/-- A caption surface's frame applies the visibility rule to it: where the rule
decides, the store then holds the rule's opacity, and nothing else is written. -/
theorem tick_caption {w : World} {id : String} {sf : Surface} (hs : w.captions.get? id = some sf)
    (dt : Duration) :
    let w' := ((⟨id, [.caption (some id)]⟩ : Entity).tick dt w).2
    Confined (fun e a => e = id ∧ a = Attr.opacity) w w' ∧
      (sf.Decided = true →
        w'.store.Holds id Attr.opacity (.float (ruleOpacity sf.speaker sf.target sf.ambient))) := by
  intro w'
  have hid : sf.id = id := by simpa using List.find?_some hs
  have hw' : w' = w.writeOpacities sf.apply.toList := by
    simp only [w', Entity.tick_eq, threadMap, Behaviour.tick, hs]
  rw [hw', Surface.apply_eq]
  by_cases hd : sf.Decided = true
  · rw [if_pos hd]
    simp only [Option.toList, World.writeOpacities, List.foldl_cons, List.foldl_nil, Surface.ruleWrite, hid]
    exact ⟨Confined.write w id Attr.opacity _, fun _ => World.holds_write w id Attr.opacity _⟩
  · rw [if_neg hd]
    exact ⟨Confined.refl _ w, fun h => absurd h hd⟩

/-! ## The markers -/

/-- What a frame leaves in a marker's entity, from `w` to `w'`: while its speaker
is set and placed, turned from this frame's anchor toward it, then by the
offset, and coloured by whether it is active; else as it was. -/
structure Marked (offset : Indicator.Offset) (colors : Indicator.Colors) (w w' : World)
    (marker : String) (speaker : SpeakerId) (active : Bool) : Prop where
  aimed : ∀ pos, SpeakerId.isSet speaker = true → w'.registry.resolve speaker = some pos →
    w'.store.Holds marker Attr.rotation
      (.quat (offset.apply (Indicator.lookAt w'.rig.anchor pos Indicator.up))) ∧
    w'.store.Holds marker Attr.color (.text (colors.pick active))
  idle : SpeakerId.isSet speaker = false ∨ w'.registry.resolve speaker = none →
    w'.store.get? marker Attr.rotation = w.store.get? marker Attr.rotation ∧
    w'.store.get? marker Attr.color = w.store.get? marker Attr.color

/-- The attributes a marker's frame may write. -/
def markerKeys (marker : String) (e a : String) : Prop :=
  e = marker ∧ (a = Attr.rotation ∨ a = Attr.color)

namespace Indicator.Updater

variable {u : Indicator.Updater} {speaker : SpeakerId} {active : Bool} {anchor : Vec3}
  {resolve : SpeakerId → Option Vec3}

theorem tick_writes_of_resolve {pos : Vec3} (hs : SpeakerId.isSet speaker = true)
    (hr : resolve speaker = some pos) :
    (u.tick speaker active anchor resolve).writes =
      [.rotation (u.offset.apply (Indicator.lookAt anchor pos Indicator.up)), .color (u.colors.pick active)] := by
  unfold Indicator.Updater.tick
  by_cases hc : speaker ∈ u.missing <;> simp [hs, hr, hc]

theorem tick_writes_idle (h : SpeakerId.isSet speaker = false ∨ resolve speaker = none) :
    (u.tick speaker active anchor resolve).writes = [] := by
  unfold Indicator.Updater.tick
  rcases h with hs | hr
  · simp [hs]
  · by_cases hs : SpeakerId.isSet speaker = true <;> by_cases hc : speaker ∈ u.missing <;> simp [hs, hr, hc]

end Indicator.Updater

namespace Marked

variable {offset : Indicator.Offset} {colors : Indicator.Colors} {w w₁ w₂ : World} {marker : String}
  {speaker : SpeakerId} {active : Bool} {K : String → String → Prop}

theorem extend (h : Marked offset colors w w₁ marker speaker active) (hc : Confined K w₁ w₂)
    (hk : ∀ a, ¬ K marker a) : Marked offset colors w w₂ marker speaker active where
  aimed pos hs hr := by
    rw [hc.registry] at hr
    obtain ⟨hq, hcol⟩ := h.aimed pos hs hr
    rw [hc.anchor]
    exact ⟨hc.holds (hk _) hq, hc.holds (hk _) hcol⟩
  idle hi := by
    rw [hc.registry] at hi
    obtain ⟨hq, hcol⟩ := h.idle hi
    rw [hc.store _ _ (hk _), hc.store _ _ (hk _)]
    exact ⟨hq, hcol⟩

theorem prepend (hq : w₁.store.get? marker Attr.rotation = w.store.get? marker Attr.rotation)
    (hcol : w₁.store.get? marker Attr.color = w.store.get? marker Attr.color)
    (h : Marked offset colors w₁ w₂ marker speaker active) : Marked offset colors w w₂ marker speaker active where
  aimed := h.aimed
  idle hi := by
    obtain ⟨hq', hcol'⟩ := h.idle hi
    exact ⟨hq'.trans hq, hcol'.trans hcol⟩

/-- A marker that runs twice in a frame leaves what its last run left. -/
theorem trans (h₁ : Marked offset colors w w₁ marker speaker active)
    (h₂ : Marked offset colors w₁ w₂ marker speaker active) (hr : w₂.registry = w₁.registry) :
    Marked offset colors w w₂ marker speaker active where
  aimed := h₂.aimed
  idle hi := by
    obtain ⟨hq₂, hcol₂⟩ := h₂.idle hi
    rw [hr] at hi
    obtain ⟨hq₁, hcol₁⟩ := h₁.idle hi
    exact ⟨hq₂.trans hq₁, hcol₂.trans hcol₁⟩

end Marked

/-- What one update of a marker writes into the world. -/
def markerWrite (marker : String) (w : World) : Indicator.MarkerWrite → World
  | .rotation q => w.write marker Attr.rotation (.quat q)
  | .color c => w.write marker Attr.color (.text c)

theorem tick_marker (offset : Indicator.Offset) (colors : Indicator.Colors) (marker : String)
    (source : MarkerSource) (missing : List SpeakerId) (dt : Duration) (w : World) :
    let w' := ((markerEntity offset colors marker source missing).tick dt w).2
    Confined (markerKeys marker) w w' ∧
      Marked offset colors w w' marker (source.view w).1 (source.view w).2 := by
  intro w'
  let u : Indicator.Updater := { offset, colors, missing }
  let t := u.tick (source.view w).1 (source.view w).2 w.rig.anchor w.registry.resolve
  have hw' : w' = (t.writes.foldl (markerWrite marker) w).logAll t.logs := by
    simp only [w', Entity.tick_eq, markerEntity, threadMap, Behaviour.tick]
    rfl
  by_cases hidle : SpeakerId.isSet (source.view w).1 = false ∨ w.registry.resolve (source.view w).1 = none
  · -- nothing to aim at: the frame only logs
    have hws : t.writes = [] := Indicator.Updater.tick_writes_idle hidle
    have hc : Confined (markerKeys marker) w w' := by
      rw [hw', hws]
      exact Confined.logAll _ w t.logs
    have hst : w'.store = w.store := by
      rw [hw', hws]
      rfl
    refine ⟨hc, fun pos hs hr => ?_, fun _ => ⟨by rw [hst], by rw [hst]⟩⟩
    rw [hc.registry] at hr
    rcases hidle with h | h <;> simp_all
  · obtain ⟨hset, pos, hr⟩ : SpeakerId.isSet (source.view w).1 = true ∧
        ∃ pos, w.registry.resolve (source.view w).1 = some pos := by
      cases h : w.registry.resolve (source.view w).1 <;> simp_all
    let q := offset.apply (Indicator.lookAt w.rig.anchor pos Indicator.up)
    let c := colors.pick (source.view w).2
    let w₁ := w.write marker Attr.rotation (.quat q)
    have hws : t.writes = [.rotation q, .color c] := Indicator.Updater.tick_writes_of_resolve hset hr
    have hw₂ : w' = (w₁.write marker Attr.color (.text c)).logAll t.logs := by
      rw [hw', hws]
      rfl
    have hc₁ := Confined.write w marker Attr.rotation (.quat q)
    have hc₂ := Confined.write w₁ marker Attr.color (.text c)
    have hc₃ := Confined.logAll (fun _ _ => False) (w₁.write marker Attr.color (.text c)) t.logs
    rw [← hw₂] at hc₃
    have hrc : Attr.rotation ≠ Attr.color := by decide
    have hc : Confined (markerKeys marker) w w' := by
      refine ((hc₁.trans hc₂).trans hc₃).mono ?_
      rintro e a ((⟨rfl, rfl⟩ | ⟨rfl, rfl⟩) | h)
      · exact ⟨rfl, .inl rfl⟩
      · exact ⟨rfl, .inr rfl⟩
      · exact h.elim
    refine ⟨hc, fun pos' _ hr' => ?_, fun hi => ?_⟩
    · rw [hc.registry, hr] at hr'
      cases hr'
      rw [hc.anchor]
      refine ⟨hc₃.holds id ?_, hc₃.holds id (World.holds_write w₁ marker Attr.color _)⟩
      exact hc₂.holds (fun h => hrc h.2) (World.holds_write w marker Attr.rotation _)
    · rw [hc.registry] at hi
      rcases hi with h | h <;> simp_all

/-- The markers of the configured speakers, run in order, are aimed and coloured
as their speakers say and write nothing else; a speaker configured twice has
two markers of one entity, the second writing what the first did. -/
theorem tick_speakerMarkers_world (offset : Indicator.Offset) (colors : Indicator.Colors)
    (markers : List (SpeakerId × List SpeakerId)) (dt : Duration) (w : World) :
    let w' := (threadMap (·.tick dt) (speakerMarkers offset colors markers) w).2
    Confined (fun e a => ∃ x ∈ markers, markerKeys (markerOf x.1) e a) w w' ∧
      ∀ x ∈ markers, Marked offset colors w w' (markerOf x.1) x.1 (w'.registry.active == x.1) := by
  induction markers generalizing w with
  | nil => exact ⟨Confined.refl _ w, fun x hx => absurd hx List.not_mem_nil⟩
  | cons x markers ih =>
    obtain ⟨id, m⟩ := x
    intro w'
    let w₁ := ((markerEntity offset colors (markerOf id) (.follow id true) m).tick dt w).2
    obtain ⟨hc₁, hm₁⟩ := tick_marker offset colors (markerOf id) (.follow id true) m dt w
    obtain ⟨hc₂, hm₂⟩ := ih w₁
    have hw' : w' = (threadMap (·.tick dt) (speakerMarkers offset colors markers) w₁).2 := rfl
    rw [← hw'] at hc₂ hm₂
    have hreg : w'.registry = w.registry := hc₂.registry.trans hc₁.registry
    -- the head marker's own frame, with the registry as it is at the end
    have hm₁' : Marked offset colors w w₁ (markerOf id) id (w'.registry.active == id) := by
      simpa [MarkerSource.view, hreg] using hm₁
    refine ⟨(hc₁.trans hc₂).mono ?_, ?_⟩
    · rintro e a (h | ⟨y, hy, h⟩)
      · exact ⟨(id, m), List.mem_cons_self, h⟩
      · exact ⟨y, List.mem_cons_of_mem _ hy, h⟩
    · rintro x (_ | ⟨_, hx⟩)
      · by_cases hlater : ∃ y ∈ markers, y.1 = id
        · obtain ⟨y, hy, rfl⟩ := hlater
          exact hm₁'.trans (hm₂ y hy) hc₂.registry
        · refine hm₁'.extend hc₂ fun a ⟨y, hy, he, _⟩ => hlater ⟨y, hy, ?_⟩
          exact markerOf_inj he.symm
      · by_cases hsame : x.1 = id
        · obtain ⟨x₁, x₂⟩ := x
          dsimp only at hsame ⊢
          subst hsame
          exact hm₁'.trans (hm₂ _ hx) hc₂.registry
        · have hk : ∀ a, ¬ markerKeys (markerOf id) (markerOf x.1) a :=
            fun a h => hsame (markerOf_inj h.1)
          exact (hm₂ x hx).prepend (hc₁.store _ _ (hk _)) (hc₁.store _ _ (hk _))

/-! ## One frame -/

/-- What a frame leaves in the scene, from the world `w` before it to the world
`w'` after it. -/
structure FrameAgrees (height : Float) (offset : Indicator.Offset) (colors : Indicator.Colors)
    (ids : List SpeakerId) (w w' : World) : Prop where
  opacity : ∀ sf ∈ w'.captions.surfaces, SpeakerId.isSet sf.speaker = true →
    SpeakerId.isSet sf.target = true →
    w'.store.Holds sf.id Attr.opacity (.float (ruleOpacity sf.speaker sf.target sf.ambient))
  anchor : w'.rig.anchor = { w'.rig.camera with y := height }
  position : w'.store.Holds anchorEntity Attr.position (.vec w'.rig.anchor)
  yaw : w'.store.Holds anchorEntity Attr.yaw (.float w'.rig.yaw)
  indicator : ∀ p, w'.captions.get? captionEntity = some p →
    Marked offset colors w w' indicatorEntity p.speaker p.speakerIsActive
  markers : ∀ id ∈ ids, Marked offset colors w w' (markerOf id) id (w'.registry.active == id)

/-- A frame of a laid-out session leaves the scene consistent, whatever its
store held before. -/
theorem Laid.frame {height : Float} {offset : Indicator.Offset} {colors : Indicator.Colors}
    {ids : List SpeakerId} {v : Viewer} (h : Laid height offset colors ids v) (dt : Duration) :
    FrameAgrees height offset colors ids v.world (v.step dt).world := by
  obtain ⟨missing, markers, hids, he⟩ := h.entities
  obtain ⟨p, a, hs, hp, hpa, hpe, ha, haa, hae⟩ := h.paired
  -- the worlds between the entities' frames, in the order the entities run
  let w₁ := ((⟨anchorEntity, [.stayBelow (some anchorEntity) height true,
    .turnWithRig (some anchorEntity)]⟩ : Entity).tick dt v.world).2
  let w₂ := ((⟨captionEntity, [.caption (some captionEntity)]⟩ : Entity).tick dt w₁).2
  let w₃ := ((⟨ambientEntity, [.caption (some ambientEntity)]⟩ : Entity).tick dt w₂).2
  let w₄ := ((markerEntity offset colors indicatorEntity (.surface captionEntity) missing).tick dt w₃).2
  have hw₅ : (v.step dt).world = (threadMap (·.tick dt) (speakerMarkers offset colors markers) w₄).2 := by
    show (v.loop.step dt v.world).2 = _
    rw [Loop.step_eq, he, sessionEntities, threadMap_append]
    rfl
  rw [hw₅]
  obtain ⟨hk₁, hanchor₁, hpos₁, hyaw₁, hrest₁⟩ := tick_anchor height dt v.world
  have hcs₁ : w₁.captions.surfaces = [p, a] := by rw [hk₁.captions, hs]
  obtain ⟨hc₂, hop₂⟩ := tick_caption (get?_pair hcs₁ hp ha).1 dt
  have hcs₂ : w₂.captions.surfaces = [p, a] := by rw [hc₂.captions, hcs₁]
  obtain ⟨hc₃, hop₃⟩ := tick_caption (get?_pair hcs₂ hp ha).2 dt
  have hcs₃ : w₃.captions.surfaces = [p, a] := by rw [hc₃.captions, hcs₂]
  obtain ⟨hc₄, hm₄⟩ := tick_marker offset colors indicatorEntity (.surface captionEntity) missing dt w₃
  obtain ⟨hc₅, hm₅⟩ := tick_speakerMarkers_world offset colors markers dt w₄
  have hc₃₅ := hc₄.trans hc₅
  have hc₂₅ := hc₃.trans hc₃₅
  have hc₁₅ := hc₂.trans hc₂₅
  -- only markers write rotations and colours, and they write nothing else
  have hmarks : ∀ e attr, attr ≠ Attr.rotation → attr ≠ Attr.color →
      ¬ (markerKeys indicatorEntity e attr ∨ ∃ x ∈ markers, markerKeys (markerOf x.1) e attr) := by
    rintro e attr hr hc (⟨-, h⟩ | ⟨x, -, -, h⟩) <;> exact h.elim hr hc
  -- before the markers run, no marker's rotation or colour has changed
  have hbefore₃ : ∀ m attr, attr = Attr.rotation ∨ attr = Attr.color →
      w₃.store.get? m attr = v.world.store.get? m attr := by
    rintro m attr hattr
    have hop : attr ≠ Attr.opacity := by rcases hattr with rfl | rfl <;> decide
    rw [hc₃.store m attr fun h => hop h.2, hc₂.store m attr fun h => hop h.2]
    exact hrest₁ m attr (by rcases hattr with rfl | rfl <;> decide) (by rcases hattr with rfl | rfl <;> decide)
  refine ⟨?_, ?_, ?_, ?_, ?_, ?_⟩
  · intro sf hsf hsp hst
    rw [hc₁₅.captions, hcs₁, List.mem_pair] at hsf
    rcases hsf with rfl | rfl
    · have hd : sf.Decided = true := by simp [Surface.Decided, hpe, hsp, hst]
      rw [hp]
      refine hc₂₅.holds ?_ (hop₂ hd)
      rintro (⟨h, -⟩ | h)
      · exact captionEntity_ne_ambientEntity h
      · exact hmarks _ _ (by decide) (by decide) h
    · have hd : sf.Decided = true := by simp [Surface.Decided, hae, hsp, hst]
      rw [ha]
      exact hc₃₅.holds (hmarks _ _ (by decide) (by decide)) (hop₃ hd)
  · rw [hc₁₅.anchor, hc₁₅.camera, hk₁.camera]
    exact hanchor₁
  · rw [hc₁₅.anchor]
    refine hc₁₅.holds ?_ hpos₁
    rintro (⟨-, h⟩ | ⟨-, h⟩ | h)
    · exact absurd h (by decide)
    · exact absurd h (by decide)
    · exact hmarks _ _ (by decide) (by decide) h
  · rw [hc₁₅.yaw]
    refine hc₁₅.holds ?_ hyaw₁
    rintro (⟨-, h⟩ | ⟨-, h⟩ | h)
    · exact absurd h (by decide)
    · exact absurd h (by decide)
    · exact hmarks _ _ (by decide) (by decide) h
  · intro p' hp'
    rw [hc₁₅.captions, (get?_pair hcs₁ hp ha).1, Option.some.injEq] at hp'
    subst hp'
    have hview : (MarkerSource.surface captionEntity).view w₃ = (p.speaker, p.speakerIsActive) := by
      simp [MarkerSource.view, (get?_pair hcs₃ hp ha).1]
    rw [hview] at hm₄
    refine (hm₄.extend hc₅ ?_).prepend (hbefore₃ _ _ (.inl rfl)) (hbefore₃ _ _ (.inr rfl))
    rintro attr ⟨x, -, hx, -⟩
    exact markerOf_ne_indicatorEntity x.1 hx.symm
  · intro id hid
    rw [← hids] at hid
    obtain ⟨x, hx, rfl⟩ := List.mem_map.1 hid
    -- the indicator is no configured speaker's marker
    have hk : ∀ attr, ¬ markerKeys indicatorEntity (markerOf x.1) attr :=
      fun attr h => markerOf_ne_indicatorEntity x.1 h.1
    refine (hm₅ x hx).prepend ?_ ?_
    · rw [hc₄.store _ _ (hk _)]
      exact hbefore₃ _ _ (.inl rfl)
    · rw [hc₄.store _ _ (hk _)]
      exact hbefore₃ _ _ (.inr rfl)

/-! ## Every frame of every session -/

/-- Right after each frame of a session assembled from settings that parse,
whatever came before, the session keeps its layout and the frame leaves every
surface, the anchor and every marker as `FrameAgrees` says. -/
theorem frame_consistency {cfg : ViewerConfig} {recording : Bool} {v₀ : Viewer}
    {offset : Indicator.Offset} {colors : Indicator.Colors} {ids : List SpeakerId}
    (hv : Viewer.build cfg recording = .ok v₀)
    (ho : Indicator.Offset.parse cfg.indicatorOffset = .ok offset)
    (hc : Indicator.Colors.parse cfg.colors = .ok colors)
    (hi : cfg.speakers.mapM SpeakerId.parse = .ok ids) (events : List SessionEvent) (dt : Duration) :
    Laid cfg.anchorHeight offset colors ids (v₀.takeAll events) ∧
      FrameAgrees cfg.anchorHeight offset colors ids (v₀.takeAll events).world
        ((v₀.takeAll events).step dt).world ∧
      ∀ store : SceneStore,
        let v := { v₀.takeAll events with world := { (v₀.takeAll events).world with store } }
        FrameAgrees cfg.anchorHeight offset colors ids v.world (v.step dt).world := by
  have h := (Laid.build hv ho hc hi).takeAll events
  refine ⟨h, h.frame dt, fun store => ?_⟩
  intro v
  -- the layout does not depend on the store
  exact Laid.frame (v := v) ⟨h.paired, h.entities⟩ dt

/-- The default settings: a key choosing the first juror, that juror's caption,
then a frame of 16 ms. -/
theorem frame_consistency_default :
    let cfg : ViewerConfig := {}
    let v₀ := (Viewer.build cfg false).toOption.getD default
    let events : List SessionEvent :=
      [.input ⟨Host.keyCommand, ["1"]⟩, .showCaption { text := "Guilty.", speaker := "juror-a" }]
    Viewer.build cfg false = .ok v₀ ∧
      Indicator.Offset.parse cfg.indicatorOffset = .ok Indicator.Offset.quarterTurn ∧
      Indicator.Colors.parse cfg.colors = .ok Indicator.Colors.gold ∧
      cfg.speakers.mapM SpeakerId.parse = .ok cfg.speakers ∧
      (Laid cfg.anchorHeight Indicator.Offset.quarterTurn Indicator.Colors.gold cfg.speakers (v₀.takeAll events) ∧
        FrameAgrees cfg.anchorHeight Indicator.Offset.quarterTurn Indicator.Colors.gold cfg.speakers
          (v₀.takeAll events).world ((v₀.takeAll events).step 16000000).world ∧
        ∀ store : SceneStore,
          let v := { v₀.takeAll events with world := { (v₀.takeAll events).world with store } }
          FrameAgrees cfg.anchorHeight Indicator.Offset.quarterTurn Indicator.Colors.gold cfg.speakers
            v.world (v.step 16000000).world) := by
  intro cfg v₀ events
  have ho : Indicator.Offset.parse cfg.indicatorOffset = .ok Indicator.Offset.quarterTurn := rfl
  have hc : Indicator.Colors.parse cfg.colors = .ok Indicator.Colors.gold := rfl
  have hi : cfg.speakers.mapM SpeakerId.parse = .ok cfg.speakers := rfl
  have hk : KeyMap.ofTable cfg.keys = .ok KeyMap.default := by cbv
  obtain ⟨v, hb⟩ := Viewer.build_ok false (rfl : TargetField.parse cfg.targetField = .ok TargetField.active)
    ho hc hk hi
  have hv₀ : v₀ = v := by
    simp only [v₀, hb]
    rfl
  have hv : Viewer.build cfg false = .ok v₀ := by
    rw [hv₀]
    exact hb
  exact ⟨hv, ho, hc, hi, frame_consistency hv ho hc hi events 16000000⟩

end Viewing
end JuryCaptions
