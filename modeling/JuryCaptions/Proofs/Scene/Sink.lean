import JuryCaptions.Scene.Store
import Mathlib
/-!
# The store and its sinks agree

A sink attached before the first write hears one patch for every write that
changed its attribute, in order (`store_sinks_agree`). Values compare as the
host's do (`SceneValue.same`): `-0` over `0` sends nothing, a not-a-number
always sends.
-/

namespace JuryCaptions

namespace Patch

/-- The patch sent for a write: the write with its value as patches carry it. -/
def encoded (w : Patch) : Patch := ⟨w.entity, w.attr, w.value.encode⟩

/-- Whether a patch or write is for an attribute of an entity. -/
def isFor (entity attr : String) (p : Patch) : Bool := p.entity == entity && p.attr == attr

@[simp] theorem isFor_eq_true {entity attr : String} {p : Patch} :
    p.isFor entity attr = true ↔ p.entity = entity ∧ p.attr = attr := by
  simp [isFor]

/-- The order of the snapshot: by entity, then by attribute, with no two equal. -/
def KeyBefore (p q : Patch) : Prop := p.entity < q.entity ∨ (p.entity = q.entity ∧ p.attr < q.attr)

end Patch

/-- The value the last patch for an attribute carries: what a sink that keeps
the last patch of every attribute holds for it. -/
def lastValue (ps : List Patch) (entity attr : String) : Option SceneValue :=
  ((ps.filter (Patch.isFor entity attr)).getLast?).map (·.value)

theorem lastValue_nil (entity attr : String) : lastValue [] entity attr = none := rfl

theorem lastValue_append (ps qs : List Patch) (entity attr : String) :
    lastValue (ps ++ qs) entity attr = (lastValue qs entity attr).or (lastValue ps entity attr) := by
  unfold lastValue
  rw [List.filter_append, List.getLast?_append]
  cases (qs.filter (Patch.isFor entity attr)).getLast? <;> simp

theorem lastValue_singleton (w : Patch) (entity attr : String) :
    lastValue [w] entity attr = if w.isFor entity attr then some w.value else none := by
  unfold lastValue
  split <;> simp [*]

theorem lastValue_map_encoded (ps : List Patch) (entity attr : String) :
    lastValue (ps.map Patch.encoded) entity attr = (lastValue ps entity attr).map SceneValue.encode := by
  unfold lastValue
  rw [List.filter_map, List.getLast?_map]
  have h : Patch.isFor entity attr ∘ Patch.encoded = Patch.isFor entity attr := rfl
  rw [h, Option.map_map, Option.map_map]
  rfl

namespace SceneStore

/-! ## One write -/

/-- The attributes the store holds, in the order first written. -/
def keys (s : SceneStore) : List (String × String) := s.values.map (·.1)

/-- The value of an attribute replaced wherever the attribute is held. -/
def replace (s : SceneStore) (entity attr : String) (v : SceneValue) : SceneStore :=
  ⟨s.values.map fun (k, old) => if k == (entity, attr) then (k, v) else (k, old)⟩

/-- The three things a write does: nothing, when the value held compares equal;
replace the value held; or add the attribute at the end. -/
theorem set_cases (s : SceneStore) (entity attr : String) (v : SceneValue) :
    (∃ u, s.get? entity attr = some u ∧ u.same v = true ∧ s.set entity attr v = (s, none)) ∨
    (∃ u, s.get? entity attr = some u ∧ u.same v = false ∧
      s.set entity attr v = (s.replace entity attr v, some ⟨entity, attr, v.encode⟩)) ∨
    (s.get? entity attr = none ∧
      s.set entity attr v = (⟨s.values ++ [((entity, attr), v)]⟩, some ⟨entity, attr, v.encode⟩)) := by
  cases hu : s.get? entity attr with
  | none => exact .inr (.inr ⟨rfl, by simp [set, hu]⟩)
  | some u =>
    cases hs : u.same v with
    | true => exact .inl ⟨u, rfl, hs, by simp [set, hu, hs]⟩
    | false => exact .inr (.inl ⟨u, rfl, hs, by simp [set, hu, hs, replace]⟩)

variable {s : SceneStore} {entity attr : String} {v : SceneValue}

theorem set_unchanged (h : (s.set entity attr v).2 = none) : (s.set entity attr v).1 = s := by
  rcases set_cases s entity attr v with ⟨u, -, -, he⟩ | ⟨u, -, -, he⟩ | ⟨-, he⟩
  · rw [he]
  · rw [he] at h
    cases h
  · rw [he] at h
    cases h

theorem set_sent {p : Patch} (h : (s.set entity attr v).2 = some p) : p = ⟨entity, attr, v.encode⟩ := by
  rcases set_cases s entity attr v with ⟨u, -, -, he⟩ | ⟨u, -, -, he⟩ | ⟨-, he⟩ <;> rw [he] at h
  · cases h
  · exact (Option.some.inj h).symm
  · exact (Option.some.inj h).symm

theorem set_none_iff : (s.set entity attr v).2 = none ↔ ∃ u, s.get? entity attr = some u ∧ u.same v := by
  rcases set_cases s entity attr v with ⟨u, hu, hs, he⟩ | ⟨u, hu, hs, he⟩ | ⟨hu, he⟩
  · simp [he, hu, hs]
  · simp [he, hu, hs]
  · simp [he, hu]

theorem get?_replace (e a : String) (h : (s.get? entity attr).isSome) :
    (s.replace entity attr v).get? e a = if e = entity ∧ a = attr then some v else s.get? e a := by
  unfold replace get?
  rw [List.find?_map]
  have hp : ((·.1 == (e, a)) ∘ fun (x : (String × String) × SceneValue) =>
      if x.1 == (entity, attr) then (x.1, v) else (x.1, x.2)) = (·.1 == (e, a)) := by
    funext x
    simp only [Function.comp_apply]
    split <;> rfl
  rw [hp]
  split
  · next hk =>
    obtain ⟨rfl, rfl⟩ := hk
    obtain ⟨x, hx⟩ : ∃ x, s.values.find? (·.1 == (e, a)) = some x := by
      unfold get? at h
      cases hx : s.values.find? (·.1 == (e, a)) <;> simp_all
    have hkx : x.1 = (e, a) := by simpa using List.find?_some hx
    simp [hx, hkx]
  · next hk =>
    cases hx : s.values.find? (·.1 == (e, a)) with
    | none => rfl
    | some x =>
      have hkx : x.1 = (e, a) := by simpa using List.find?_some hx
      have hne : ¬ x.1 = (entity, attr) := by
        rw [hkx]
        intro h'
        exact hk (Prod.mk.inj h')
      simp [hne]

theorem get?_append_new (e a : String) (h : s.get? entity attr = none) :
    (⟨s.values ++ [((entity, attr), v)]⟩ : SceneStore).get? e a =
      if e = entity ∧ a = attr then some v else s.get? e a := by
  unfold get?
  rw [List.find?_append]
  split
  · next hk =>
    obtain ⟨rfl, rfl⟩ := hk
    unfold get? at h
    rw [Option.map_eq_none_iff] at h
    simp [h]
  · next hk =>
    cases hx : s.values.find? (·.1 == (e, a)) with
    | some x => rfl
    | none =>
      have hne : ¬ (entity, attr) = (e, a) := fun h' => hk ⟨(Prod.mk.inj h').1.symm, (Prod.mk.inj h').2.symm⟩
      simp [hne]

theorem get?_set_of_sent (h : (s.set entity attr v).2.isSome) (e a : String) :
    (s.set entity attr v).1.get? e a = if e = entity ∧ a = attr then some v else s.get? e a := by
  rcases set_cases s entity attr v with ⟨u, hu, -, he⟩ | ⟨u, hu, -, he⟩ | ⟨hu, he⟩ <;> rw [he] at h ⊢
  · cases h
  · exact get?_replace e a (by rw [hu]; rfl)
  · exact get?_append_new e a hu

theorem get?_set_isSome : ((s.set entity attr v).1.get? entity attr).isSome := by
  rcases set_cases s entity attr v with ⟨u, hu, -, he⟩ | ⟨u, hu, -, he⟩ | ⟨hu, he⟩ <;> rw [he]
  · rw [hu]
    rfl
  · rw [get?_replace entity attr (by rw [hu]; rfl), if_pos ⟨rfl, rfl⟩]
    rfl
  · rw [get?_append_new entity attr hu, if_pos ⟨rfl, rfl⟩]
    rfl

theorem keys_set_nodup (h : s.keys.Nodup) : (s.set entity attr v).1.keys.Nodup := by
  rcases set_cases s entity attr v with ⟨u, -, -, he⟩ | ⟨u, -, -, he⟩ | ⟨hu, he⟩ <;> rw [he]
  · exact h
  · unfold keys replace at *
    rw [List.map_map]
    have hk : ((·.1) ∘ fun (x : (String × String) × SceneValue) =>
        if x.1 == (entity, attr) then (x.1, v) else (x.1, x.2)) = (·.1) := by
      funext x
      simp only [Function.comp_apply]
      split <;> rfl
    rw [hk]
    exact h
  · unfold keys at h ⊢
    rw [List.map_append, List.nodup_append]
    refine ⟨h, List.nodup_singleton _, ?_⟩
    intro k hk b hb hkb
    rw [List.map_cons, List.map_nil, List.mem_singleton] at hb
    obtain ⟨x, hx, rfl⟩ := List.mem_map.1 hk
    unfold get? at hu
    rw [Option.map_eq_none_iff, List.find?_eq_none] at hu
    exact hu x hx (by simp [hkb, hb])

theorem get?_eq_some_iff (h : s.keys.Nodup) : s.get? entity attr = some v ↔ ((entity, attr), v) ∈ s.values := by
  unfold get?
  constructor
  · intro hv
    obtain ⟨x, hx, rfl⟩ := Option.map_eq_some_iff.1 hv
    have hkx : x.1 = (entity, attr) := by simpa using List.find?_some hx
    have hm := List.mem_of_find?_eq_some hx
    rw [← hkx]
    exact hm
  · intro hm
    cases hx : s.values.find? (·.1 == (entity, attr)) with
    | none =>
      rw [List.find?_eq_none] at hx
      exact absurd (by simp) (hx _ hm)
    | some x =>
      have hkx : x.1 = (entity, attr) := by simpa using List.find?_some hx
      have hxm := List.mem_of_find?_eq_some hx
      have hxe : x = ((entity, attr), v) := List.inj_on_of_nodup_map h hxm hm hkx
      simp [hxe]

/-! ## The snapshot -/

private theorem snapshotOrder_trans (p q r : Patch)
    (hpq : (p.entity < q.entity || (p.entity == q.entity && decide (p.attr ≤ q.attr))) = true)
    (hqr : (q.entity < r.entity || (q.entity == r.entity && decide (q.attr ≤ r.attr))) = true) :
    (p.entity < r.entity || (p.entity == r.entity && decide (p.attr ≤ r.attr))) = true := by
  simp only [Bool.or_eq_true, Bool.and_eq_true, decide_eq_true_eq, beq_iff_eq] at *
  rcases hpq with h1 | ⟨h1, h2⟩ <;> rcases hqr with h3 | ⟨h3, h4⟩
  · exact .inl (lt_trans h1 h3)
  · exact .inl (h3 ▸ h1)
  · exact .inl (h1 ▸ h3)
  · exact .inr ⟨h1.trans h3, le_trans h2 h4⟩

private theorem snapshotOrder_total (p q : Patch) :
    ((p.entity < q.entity || (p.entity == q.entity && decide (p.attr ≤ q.attr))) ||
      (q.entity < p.entity || (q.entity == p.entity && decide (q.attr ≤ p.attr)))) = true := by
  simp only [Bool.or_eq_true, Bool.and_eq_true, decide_eq_true_eq, beq_iff_eq]
  rcases lt_trichotomy p.entity q.entity with h | h | h
  · exact .inl (.inl h)
  · rcases le_total p.attr q.attr with h' | h'
    · exact .inl (.inr ⟨h, h'⟩)
    · exact .inr (.inr ⟨h.symm, h'⟩)
  · exact .inr (.inl h)

theorem mem_snapshot (h : s.keys.Nodup) (p : Patch) :
    p ∈ s.snapshot ↔ ∃ u, s.get? p.entity p.attr = some u ∧ p.value = u.encode := by
  unfold snapshot
  rw [List.mem_mergeSort, List.mem_map]
  constructor
  · rintro ⟨⟨⟨e, a⟩, u⟩, hm, rfl⟩
    exact ⟨u, (get?_eq_some_iff h).2 hm, rfl⟩
  · rintro ⟨u, hu, hv⟩
    refine ⟨((p.entity, p.attr), u), (get?_eq_some_iff h).1 hu, ?_⟩
    cases p
    subst hv
    rfl

theorem snapshot_sorted (h : s.keys.Nodup) : s.snapshot.Pairwise Patch.KeyBefore := by
  have hle := List.pairwise_mergeSort snapshotOrder_trans snapshotOrder_total
    (s.values.map fun x => (⟨x.1.1, x.1.2, x.2.encode⟩ : Patch))
  -- the keys of the patches are those of the store, so no two are equal
  have hkeys : ((s.values.map fun x => (⟨x.1.1, x.1.2, x.2.encode⟩ : Patch)).map
      fun p => (p.entity, p.attr)) = s.keys := by
    unfold keys
    rw [List.map_map]
    rfl
  have hne : (s.snapshot.map fun p => (p.entity, p.attr)).Nodup := by
    have hperm := (List.mergeSort_perm (s.values.map fun x => (⟨x.1.1, x.1.2, x.2.encode⟩ : Patch))
      fun p q => p.entity < q.entity || (p.entity == q.entity && decide (p.attr ≤ q.attr))).map
      fun p => (p.entity, p.attr)
    rw [hkeys] at hperm
    exact hperm.nodup_iff.2 h
  refine (hle.and (List.pairwise_map.1 hne)).imp ?_
  rintro p q ⟨hpq, hk⟩
  simp only [Bool.or_eq_true, Bool.and_eq_true, decide_eq_true_eq, beq_iff_eq] at hpq
  rcases hpq with h1 | ⟨h1, h2⟩
  · exact .inl h1
  · exact .inr ⟨h1, lt_of_le_of_ne h2 fun h3 => hk (by rw [h1, h3])⟩

/-! ## A sequence of writes -/

/-- Writes in order, each given as a patch with its raw value: the store they
leave and what each returned, the patch sent to every sink when the write
changed its attribute. -/
def setAll (s : SceneStore) : List Patch → SceneStore × List (Option Patch)
  | [] => (s, [])
  | w :: ws =>
    let r := s.set w.entity w.attr w.value
    let rest := setAll r.1 ws
    (rest.1, r.2 :: rest.2)

/-- The writes that changed their attribute, in order, with their raw values. -/
def changed (s : SceneStore) : List Patch → List Patch
  | [] => []
  | w :: ws =>
    let r := s.set w.entity w.attr w.value
    (r.2.map fun _ => w).toList ++ changed r.1 ws

theorem sent_eq (s : SceneStore) (ws : List Patch) :
    (s.setAll ws).2.reduceOption = (s.changed ws).map Patch.encoded := by
  induction ws generalizing s with
  | nil => rfl
  | cons w ws ih =>
    simp only [setAll, changed, List.map_append]
    rw [← ih]
    cases hr : (s.set w.entity w.attr w.value).2 with
    | none => rw [List.reduceOption_cons_of_none]; rfl
    | some p =>
      rw [List.reduceOption_cons_of_some, set_sent hr]
      rfl

/-- What the store holds after writes: the last written raw value of each
attribute, or what it held before for an attribute none of them changed. -/
theorem get?_setAll (s : SceneStore) (ws : List Patch) (e a : String) :
    (s.setAll ws).1.get? e a = (lastValue (s.changed ws) e a).or (s.get? e a) := by
  induction ws generalizing s with
  | nil => rfl
  | cons w ws ih =>
    simp only [setAll, changed]
    rw [ih, lastValue_append]
    cases hr : (s.set w.entity w.attr w.value).2 with
    | none =>
      rw [set_unchanged hr]
      simp only [Option.map_none, Option.toList_none, lastValue_nil, Option.or_none]
    | some p =>
      have hs : (s.set w.entity w.attr w.value).2.isSome := by rw [hr]; rfl
      simp only [Option.map_some, Option.toList_some]
      rw [get?_set_of_sent hs, lastValue_singleton]
      by_cases hk : e = w.entity ∧ a = w.attr
      · have hf : w.isFor e a = true := Patch.isFor_eq_true.2 ⟨hk.1.symm, hk.2.symm⟩
        rw [if_pos hk, if_pos hf]
        cases lastValue (changed (s.set w.entity w.attr w.value).1 ws) e a <;> rfl
      · have hf : w.isFor e a = false := by
          rw [← Bool.not_eq_true, Patch.isFor_eq_true]
          exact fun hc => hk ⟨hc.1.symm, hc.2.symm⟩
        rw [if_neg hk, hf]
        cases lastValue (changed (s.set w.entity w.attr w.value).1 ws) e a <;> rfl

theorem get?_setAll_isSome (s : SceneStore) {ws : List Patch} {w : Patch} (hw : w ∈ ws) :
    ((s.setAll ws).1.get? w.entity w.attr).isSome := by
  induction ws generalizing s with
  | nil => cases hw
  | cons w' ws ih =>
    simp only [setAll]
    rcases List.mem_cons.1 hw with rfl | hw
    · -- held after its own write, and kept by the later ones
      rw [get?_setAll]
      have hheld := @get?_set_isSome s w.entity w.attr w.value
      cases lastValue (changed (s.set w.entity w.attr w.value).1 ws) w.entity w.attr
      · exact hheld
      · rfl
    · exact ih _ hw

theorem keys_setAll_nodup {s : SceneStore} (h : s.keys.Nodup) (ws : List Patch) :
    (s.setAll ws).1.keys.Nodup := by
  induction ws generalizing s with
  | nil => exact h
  | cons w ws ih => exact ih (keys_set_nodup h)

/-- The raw values behind the patches of one attribute, after the value the
store held for it: no two in a row compare equal. -/
theorem isChain_changed (s : SceneStore) (ws : List Patch) (e a : String) :
    ((s.get? e a).toList ++ ((s.changed ws).filter (Patch.isFor e a)).map (·.value)).IsChain
      fun u v => u.same v = false := by
  induction ws generalizing s with
  | nil => cases s.get? e a <;> simp [changed]
  | cons w ws ih =>
    simp only [changed]
    cases hr : (s.set w.entity w.attr w.value).2 with
    | none =>
      have := ih (s.set w.entity w.attr w.value).1
      rwa [set_unchanged hr] at this ⊢
    | some p =>
      have hs : (s.set w.entity w.attr w.value).2.isSome := by rw [hr]; rfl
      have hih := ih (s.set w.entity w.attr w.value).1
      rw [get?_set_of_sent hs] at hih
      simp only [Option.map_some, Option.toList_some, List.singleton_append, List.filter_cons]
      by_cases hk : e = w.entity ∧ a = w.attr
      · -- the write heard is this attribute's: it follows the value held, which it differs from
        have hf : w.isFor e a = true := Patch.isFor_eq_true.2 ⟨hk.1.symm, hk.2.symm⟩
        rw [if_pos hk] at hih
        rw [if_pos hf, List.map_cons]
        have hdiff : ∀ u, s.get? e a = some u → u.same w.value = false := by
          intro u hu
          cases hsame : u.same w.value
          · rfl
          · obtain ⟨rfl, rfl⟩ := hk
            rw [set_none_iff.2 ⟨u, hu, hsame⟩] at hr
            cases hr
        cases hu : s.get? e a with
        | none => simpa using hih
        | some u =>
          simp only [Option.toList_some, List.singleton_append] at hih ⊢
          exact hih.cons (by simpa using hdiff u hu)
      · have hf : w.isFor e a = false := by
          rw [← Bool.not_eq_true, Patch.isFor_eq_true]
          exact fun hc => hk ⟨hc.1.symm, hc.2.symm⟩
        rw [if_neg hk] at hih
        rw [if_neg (by simp [hf])]
        exact hih

theorem get?_setAll_empty (ws : List Patch) (e a : String) :
    (({} : SceneStore).setAll ws).1.get? e a = lastValue (({} : SceneStore).changed ws) e a := by
  rw [get?_setAll]
  cases lastValue (({} : SceneStore).changed ws) e a <;> rfl

end SceneStore

/-- **The store and its sinks agree.**  For every sequence of writes from the
empty store: a sink hears, in order, the patches of the writes that changed
their attribute, no two in a row equal; the store holds the last; the snapshot
holds the last patch of every attribute once, sorted strictly; and a write that
sends nothing leaves the store as it was. -/
theorem store_sinks_agree (ws : List Patch) :
    (({} : SceneStore).setAll ws).2.reduceOption = (({} : SceneStore).changed ws).map Patch.encoded ∧
    (∀ e a, (((({} : SceneStore).changed ws).filter (Patch.isFor e a)).map (·.value)).IsChain
      fun u v => u.same v = false) ∧
    (∀ e a, (({} : SceneStore).setAll ws).1.get? e a = lastValue (({} : SceneStore).changed ws) e a) ∧
    (∀ p : Patch, p ∈ (({} : SceneStore).setAll ws).1.snapshot ↔
      lastValue (({} : SceneStore).setAll ws).2.reduceOption p.entity p.attr = some p.value) ∧
    (∀ w ∈ ws, ∃ p ∈ (({} : SceneStore).setAll ws).1.snapshot, p.entity = w.entity ∧ p.attr = w.attr) ∧
    (({} : SceneStore).setAll ws).1.snapshot.Pairwise Patch.KeyBefore ∧
    (∀ q : Quat, (SceneValue.quat q).encode = .array4 [q.v.x, q.v.y, q.v.z, q.w]) ∧
    (∀ v : Vec3, (SceneValue.vec v).encode = .array3 [v.x, v.y, v.z]) ∧
    (∀ (s : SceneStore) (entity attr : String) (v : SceneValue),
      (s.set entity attr v).2 = none → (s.set entity attr v).1 = s) := by
  have hnd : (({} : SceneStore).setAll ws).1.keys.Nodup := SceneStore.keys_setAll_nodup (s := {}) List.nodup_nil ws
  refine ⟨SceneStore.sent_eq {} ws, fun e a => SceneStore.isChain_changed {} ws e a,
    SceneStore.get?_setAll_empty ws, fun p => ?_, fun w hw => ?_, SceneStore.snapshot_sorted hnd,
    fun _ => rfl, fun _ => rfl, fun _ _ _ _ h => SceneStore.set_unchanged h⟩
  · rw [SceneStore.mem_snapshot hnd, SceneStore.sent_eq, lastValue_map_encoded,
      ← SceneStore.get?_setAll_empty]
    constructor
    · rintro ⟨u, hu, hv⟩
      rw [hu, hv]
      rfl
    · intro h
      obtain ⟨u, hu, hv⟩ := Option.map_eq_some_iff.1 h
      exact ⟨u, hu, hv.symm⟩
  · -- a written attribute is held, so its patch is in the snapshot
    obtain ⟨u, hu⟩ := Option.isSome_iff_exists.1 (SceneStore.get?_setAll_isSome {} hw)
    exact ⟨⟨w.entity, w.attr, u.encode⟩, (SceneStore.mem_snapshot hnd _).2 ⟨u, hu, rfl⟩, rfl, rfl⟩

end JuryCaptions
