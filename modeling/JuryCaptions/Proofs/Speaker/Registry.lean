import JuryCaptions.Speaker.Registry
import Mathlib
/-!
# The speaker registry

Speakers become known when first seen and are never dropped. Every call keeps
the registry tracking the ids seen (`Tracks`): each once, in order first seen,
the active speaker nobody or one of them. A speaker resolves to the last
position reported since it was last forgotten (`resolve_run`).
-/

namespace JuryCaptions

/-- Where an entry places its speaker: at its position once that is resolved. -/
def SpeakerEntry.spot (e : SpeakerEntry) : Option Vec3 := if e.resolved then some e.position else none

namespace Registry

/-- A call on a registry after it was made. -/
inductive Call where
  | update (id : SpeakerId) (offset parent : Vec3)
  | setPosition (id : SpeakerId) (world : Vec3)
  | forget (id : SpeakerId)
  | setActive (id : SpeakerId)
  | clearActive

def perform (r : Registry) : Call → Registry
  | .update id o p => r.update id o p
  | .setPosition id w => r.setPosition id w
  | .forget id => r.forget id
  | .setActive id => r.setActive id
  | .clearActive => r.clearActive

def run (r : Registry) (calls : List Call) : Registry := calls.foldl perform r

namespace Call

/-- The speaker a call makes known: a set id given a position or made active. -/
def introduces : Call → Option SpeakerId
  | .update id _ _ | .setPosition id _ | .setActive id => if SpeakerId.isSet id then some id else none
  | _ => none

/-- What a call says of where `id` is: at a point, forgotten (`some none`), or nothing. -/
def placement (id : SpeakerId) : Call → Option (Option Vec3)
  | .update j o p => if j = id ∧ SpeakerId.isSet j then some (some (o.add p)) else none
  | .setPosition j w => if j = id ∧ SpeakerId.isSet j then some (some w) else none
  | .forget j => if j = id then some none else none
  | _ => none

end Call

/-- Where `calls` leave `id`: at the last position reported for it after it was
last forgotten, unresolved when there is none. -/
def placedAfter (id : SpeakerId) (calls : List Call) : Option Vec3 :=
  ((calls.filterMap (Call.placement id)).getLast?).getD none

/-- The ids of the known speakers, in the order of their entries. -/
def known (r : Registry) : List SpeakerId := r.entries.map (·.id)

theorem mem_known {r : Registry} {x : SpeakerId} : x ∈ r.known ↔ r.entries.any (·.id == x) := by
  simp [known]

theorem known_ensure (r : Registry) (x : SpeakerId) :
    (r.ensure x).known = if x ∈ r.known then r.known else r.known ++ [x] := by
  unfold ensure
  by_cases h : x ∈ r.known
  · rw [if_pos (mem_known.1 h), if_pos h]
  · rw [if_neg (by simpa [mem_known] using h), if_neg h]
    simp [known]

theorem known_modify (r : Registry) (id : SpeakerId) {f : SpeakerEntry → SpeakerEntry}
    (hf : ∀ e, (f e).id = e.id) : (r.modify id f).known = r.known := by
  simp only [modify, known, List.map_map]
  congr 1
  funext e
  by_cases h : e.id = id <;> simp [h, hf]

theorem eraseDups_concat (l : List SpeakerId) (x : SpeakerId) :
    (l ++ [x]).eraseDups = if x ∈ l then l.eraseDups else l.eraseDups ++ [x] := by
  rw [List.eraseDups_append]
  by_cases h : x ∈ l
  · simp [h, List.removeAll]
  · simp [h, List.removeAll, List.eraseDups_cons]

/-! ## Known speakers -/

/-- The registry after calls that saw the ids `seen`: it knows those ids, each
once, in the order first seen, and its active speaker is nobody or one of them. -/
structure Tracks (r : Registry) (seen : List SpeakerId) : Prop where
  known_eq : r.known = seen.eraseDups
  nodup : r.known.Nodup
  active : r.active = SpeakerId.none ∨ r.active ∈ seen

theorem run_cons (r : Registry) (c : Call) (cs : List Call) : r.run (c :: cs) = (r.perform c).run cs := rfl

theorem active_ensure (r : Registry) (x : SpeakerId) : (r.ensure x).active = r.active := by
  unfold ensure
  split <;> rfl

namespace Tracks

variable {r : Registry} {seen : List SpeakerId}

theorem empty : ({} : Registry).Tracks [] := ⟨rfl, List.nodup_nil, .inl rfl⟩

theorem ensure (h : r.Tracks seen) (x : SpeakerId) : (r.ensure x).Tracks (seen ++ [x]) where
  known_eq := by
    have hx : x ∈ r.known ↔ x ∈ seen := by rw [h.known_eq, List.mem_eraseDups]
    rw [known_ensure, eraseDups_concat, ← h.known_eq]
    by_cases hs : x ∈ seen
    · rw [if_pos (hx.2 hs), if_pos hs]
    · rw [if_neg (mt hx.1 hs), if_neg hs]
  nodup := by
    rw [known_ensure]
    split
    · exact h.nodup
    · next hx =>
      refine List.nodup_append.2 ⟨h.nodup, List.nodup_singleton x, fun a ha b hb => ?_⟩
      rw [List.mem_singleton.1 hb]
      exact fun e => hx (e ▸ ha)
  active := by
    rw [active_ensure]
    exact h.active.imp_right fun hm => List.mem_append_left _ hm

theorem modify (h : r.Tracks seen) (id : SpeakerId) (f : SpeakerEntry → SpeakerEntry)
    (hf : ∀ e, (f e).id = e.id) : (r.modify id f).Tracks seen where
  known_eq := by rw [known_modify r id hf]; exact h.known_eq
  nodup := by rw [known_modify r id hf]; exact h.nodup
  active := h.active

theorem setPosition (h : r.Tracks seen) (id : SpeakerId) (w : Vec3) :
    (r.setPosition id w).Tracks (seen ++ (if SpeakerId.isSet id then some id else none).toList) := by
  unfold Registry.setPosition
  cases hs : SpeakerId.isSet id
  · simpa using h
  · simpa using (h.ensure id).modify id (fun e => { e with position := w, resolved := true }) fun _ => rfl

theorem perform (h : r.Tracks seen) (c : Call) : (r.perform c).Tracks (seen ++ c.introduces.toList) := by
  cases c with
  | update id o p => exact h.setPosition id (o.add p)
  | setPosition id w => exact h.setPosition id w
  | forget id =>
    simpa [Call.introduces, Registry.perform, Registry.forget] using
      h.modify id (fun e => { e with resolved := false }) fun _ => rfl
  | setActive id =>
    simp only [Registry.perform, Registry.setActive, Call.introduces]
    cases hs : SpeakerId.isSet id
    · have hid : id = SpeakerId.none := by simpa [SpeakerId.isSet, SpeakerId.none] using hs
      simpa using (⟨h.known_eq, h.nodup, .inl hid⟩ : Tracks { r with active := id } seen)
    · have he := h.ensure id
      exact ⟨he.known_eq, he.nodup, .inr (by simp)⟩
  | clearActive =>
    simpa [Call.introduces, Registry.perform] using (⟨h.known_eq, h.nodup, .inl rfl⟩ : r.clearActive.Tracks seen)

/-- A run of calls keeps the registry tracking the ids seen with those the calls introduce. -/
theorem run (h : r.Tracks seen) (calls : List Call) :
    (r.run calls).Tracks (seen ++ calls.filterMap Call.introduces) := by
  induction calls generalizing r seen with
  | nil => simpa [Registry.run] using h
  | cons c cs ih =>
    rw [run_cons]
    have hc := ih (h.perform c)
    cases hi : c.introduces <;> simpa [List.filterMap_cons, hi] using hc

theorem ofIds (ids : List SpeakerId) : (Registry.ofIds ids).Tracks ids := by
  -- `ofIds` ensures the ids one after another
  suffices ∀ (r : Registry) seen, r.Tracks seen → (ids.foldl Registry.ensure r).Tracks (seen ++ ids) by
    simpa [Registry.ofIds] using this {} [] empty
  induction ids with
  | nil => intro r seen h; simpa using h
  | cons x xs ih =>
    intro r seen h
    simpa using ih (r.ensure x) (seen ++ [x]) (h.ensure x)

end Tracks

/-! ## Resolving a speaker -/

theorem resolve_eq (r : Registry) (id : SpeakerId) :
    r.resolve id = (r.entries.find? (·.id == id)).bind SpeakerEntry.spot := by
  unfold resolve
  cases r.entries.find? (·.id == id) <;> rfl

theorem find?_ensure (r : Registry) (x : SpeakerId) : ∃ e, (r.ensure x).entries.find? (·.id == x) = some e := by
  apply Option.isSome_iff_exists.1
  unfold ensure
  split
  · next h =>
    obtain ⟨e, he, hx⟩ := List.any_eq_true.1 h
    exact List.find?_isSome.2 ⟨e, he, hx⟩
  · exact List.find?_isSome.2 ⟨{ id := x }, by simp, by simp⟩

theorem resolve_ensure (r : Registry) (x id : SpeakerId) : (r.ensure x).resolve id = r.resolve id := by
  rw [resolve_eq, resolve_eq]
  unfold ensure
  split
  · rfl
  · cases h : r.entries.find? (·.id == id) <;> simp [List.find?_append, h, SpeakerEntry.spot]

theorem resolve_modify (r : Registry) (j id : SpeakerId) (f : SpeakerEntry → SpeakerEntry)
    (hf : ∀ e, (f e).id = e.id) :
    (r.modify j f).resolve id =
      if id = j then ((r.entries.find? (·.id == id)).map f).bind SpeakerEntry.spot else r.resolve id := by
  rw [resolve_eq, resolve_eq]
  -- the update keeps every id, so the entry found is the one found before, updated
  have hp : ((·.id == id) ∘ fun e : SpeakerEntry => if e.id == j then f e else e) = (·.id == id) := by
    funext e
    by_cases h : e.id = j <;> simp [h, hf]
  simp only [modify, List.find?_map, hp]
  cases h : r.entries.find? (·.id == id) with
  | none => simp
  | some e =>
    have he : e.id = id := by simpa using List.find?_some h
    by_cases hj : id = j <;> simp [he, hj]

theorem resolve_setPosition (r : Registry) (j id : SpeakerId) (w : Vec3) :
    (r.setPosition j w).resolve id = if j = id ∧ SpeakerId.isSet j then some w else r.resolve id := by
  unfold setPosition
  cases hs : SpeakerId.isSet j
  · simp
  · simp only [Bool.not_true, Bool.false_eq_true, if_false, and_true]
    rw [resolve_modify _ _ _ _ (by intro _; rfl)]
    by_cases hj : j = id
    · subst hj
      obtain ⟨e, he⟩ := find?_ensure r j
      simp [he, SpeakerEntry.spot]
    · simp [hj, Ne.symm hj, resolve_ensure]

theorem resolve_forget (r : Registry) (j id : SpeakerId) :
    (r.forget j).resolve id = if j = id then none else r.resolve id := by
  unfold forget
  rw [resolve_modify _ _ _ _ (by intro _; rfl)]
  by_cases hj : j = id
  · subst hj
    cases r.entries.find? (·.id == j) <;> simp [SpeakerEntry.spot]
  · simp [hj, Ne.symm hj]

theorem resolve_setActive (r : Registry) (j id : SpeakerId) : (r.setActive j).resolve id = r.resolve id := by
  unfold setActive
  cases SpeakerId.isSet j
  · rfl
  · exact resolve_ensure r j id

theorem resolve_perform (r : Registry) (c : Call) (id : SpeakerId) :
    (r.perform c).resolve id = (c.placement id).getD (r.resolve id) := by
  cases c with
  | update j o p =>
    simp only [perform, update, resolve_setPosition, Call.placement]
    split <;> rfl
  | setPosition j w =>
    simp only [perform, resolve_setPosition, Call.placement]
    split <;> rfl
  | forget j => by_cases hj : j = id <;> simp [perform, resolve_forget, Call.placement, hj]
  | setActive j => simp [perform, resolve_setActive, Call.placement]
  | clearActive => rfl

theorem resolve_run (r : Registry) (calls : List Call) (id : SpeakerId) :
    (r.run calls).resolve id = ((calls.filterMap (Call.placement id)).getLast?).getD (r.resolve id) := by
  induction calls using List.reverseRecOn with
  | nil => rfl
  | append_singleton calls c ih =>
    rw [run, List.foldl_append, List.foldl_cons, List.foldl_nil, ← run, resolve_perform, ih]
    cases hc : c.placement id <;> simp [List.filterMap_append, hc]

theorem resolve_ofIds (ids : List SpeakerId) (id : SpeakerId) : (ofIds ids).resolve id = none := by
  suffices ∀ r : Registry, (ids.foldl ensure r).resolve id = r.resolve id from this {}
  induction ids with
  | nil => exact fun _ => rfl
  | cons x xs ih => exact fun r => by rw [List.foldl_cons, ih, resolve_ensure]

/-! ## The registry's invariants -/

theorem map_id_all (r : Registry) : r.all.map (·.id) = r.known := by
  simp only [all, known, List.map_map]
  rfl

theorem active_iff_of_mem_all {r : Registry} {v : SpeakerView} (hv : v ∈ r.all) :
    v.active = true ↔ v.id = r.active := by
  obtain ⟨e, -, rfl⟩ := List.mem_map.1 hv
  simp only [beq_iff_eq]
  exact eq_comm

theorem active_iff_of_get? {r : Registry} {id : SpeakerId} {v : SpeakerView} (hv : r.get? id = some v) :
    v.active = true ↔ id = r.active := by
  obtain ⟨e, he, rfl⟩ := Option.map_eq_some_iff.1 hv
  have hid : e.id = id := by simpa using List.find?_some he
  simp only [beq_iff_eq, hid]
  exact eq_comm

/-- **The speaker registry.**  After `ofIds ids` and any calls, `all` lists the
ids given to `ofIds`, placed or made active with a set id, each once, in order
first seen, and `size` counts them. A speaker resolves to its last position
since it was last forgotten, or nothing. The active speaker is nobody or known,
and alone flagged active. A position for the empty id changes nothing. -/
theorem registry_invariants (ids : List SpeakerId) (calls : List Call) :
    let r := (ofIds ids).run calls
    let seen := ids ++ calls.filterMap Call.introduces
    r.all.map (·.id) = seen.eraseDups ∧ (r.all.map (·.id)).Nodup ∧ r.size = seen.eraseDups.length ∧
      (∀ id, r.resolve id = placedAfter id calls) ∧
      (r.active = SpeakerId.none ∨ r.active ∈ r.all.map (·.id)) ∧
      (∀ v ∈ r.all, v.active = true ↔ v.id = r.active) ∧
      (∀ id v, r.get? id = some v → (v.active = true ↔ id = r.active)) ∧
      ∀ (s : Registry) w o p, s.setPosition SpeakerId.none w = s ∧ s.update SpeakerId.none o p = s := by
  intro r seen
  have ht : r.Tracks seen := (Tracks.ofIds ids).run calls
  have hsize : r.size = r.known.length := by simp [size, known]
  refine ⟨by rw [map_id_all, ht.known_eq], by rw [map_id_all]; exact ht.nodup, by rw [hsize, ht.known_eq],
    fun id => ?_, ?_, fun v hv => active_iff_of_mem_all hv, fun id v hv => active_iff_of_get? hv,
    fun s w o p => ?_⟩
  · rw [resolve_run, resolve_ofIds]
    rfl
  · rw [map_id_all, ht.known_eq, List.mem_eraseDups]
    exact ht.active
  · simp [setPosition, update, SpeakerId.isSet, SpeakerId.none]

end Registry
end JuryCaptions
