import JuryCaptions.Proofs.Viewing.Input
import Mathlib
/-!
Validating a key table.

Entries are checked in any order; each needs a lower-case key other than a
rotation key, bound to a juror not bound before, and there must be four. The
verdict and the map do not depend on the order. Main statement:
`key_table_validation`.
-/

namespace JuryCaptions

namespace SpeakerId

theorem isValid_iff_mem (s : SpeakerId) : isValid s = true ↔ s ∈ Juror.all.map Juror.id := by
  simp only [isValid, Juror.ofId?, List.find?_isSome, beq_iff_eq, List.mem_map]

theorem parse_eq_ok {s id : SpeakerId} : parse s = .ok id ↔ id = s ∧ (s = "" ∨ isValid s = true) := by
  unfold parse
  by_cases h : s = "" ∨ isValid s = true
  · have hb : (s == "" || isValid s) = true := by simpa using h
    rw [if_pos hb]
    exact ⟨fun e => ⟨(Except.ok.inj e).symm, h⟩, fun hs => hs.1 ▸ rfl⟩
  · have hb : ¬ (s == "" || isValid s) = true := by simpa using h
    rw [if_neg hb]
    constructor
    · intro e
      cases e
    · exact fun hs => absurd hs.2 h

end SpeakerId

namespace KeyMap

/-- What the check asks of one entry on its own: a lower-case key that does not
turn the rig, bound to one of the four jurors. -/
def Allowed (kv : String × String) : Prop :=
  kv.1 = Case.lower kv.1 ∧ kv.1 ≠ rotateLeftKey ∧ kv.1 ≠ rotateRightKey ∧ SpeakerId.isValid kv.2 = true

theorem checkEntries_eq_ok (l : List (String × String)) (seen : List (SpeakerId × String)) :
    checkEntries l seen = .ok () ↔
      (∀ kv ∈ l, Allowed kv) ∧ (l.map (·.2)).Nodup ∧ ∀ kv ∈ l, kv.2 ∉ seen.map (·.1) := by
  induction l generalizing seen with
  | nil => simp [checkEntries]
  | cons kv rest ih =>
    obtain ⟨k, v⟩ := kv
    simp only [checkEntries]
    by_cases hl : k = Case.lower k
    swap
    · rw [if_pos (by simpa using hl)]
      simp [Allowed, hl]
    rw [if_neg (by simpa using hl)]
    by_cases hr : k = rotateLeftKey ∨ k = rotateRightKey
    · rw [if_pos (by simpa using hr)]
      rcases hr with hr | hr <;> simp [Allowed, hr]
    rw [if_neg (by simpa using hr)]
    have hk : k ≠ rotateLeftKey ∧ k ≠ rotateRightKey := not_or.1 hr
    by_cases hv : SpeakerId.isValid v = true
    · -- a juror's id parses to itself and is set
      have hset : SpeakerId.isSet v = true := by
        have := (SpeakerId.isValid_iff_mem v).1 hv
        simp [Juror.all, Juror.id] at this
        rcases this with rfl | rfl | rfl | rfl <;> decide
      rw [SpeakerId.parse_eq_ok.2 ⟨rfl, .inr hv⟩]
      simp only [hset, Bool.not_true, Bool.false_eq_true, if_false]
      cases hf : seen.find? (·.1 == v) with
      | some p =>
        have hm : v ∈ seen.map (·.1) := List.mem_map.2 ⟨p, List.mem_of_find?_eq_some hf, by simpa using List.find?_some hf⟩
        simp only [reduceCtorEq, false_iff]
        exact fun h => h.2.2 (k, v) List.mem_cons_self hm
      | none =>
        have hm : v ∉ seen.map (·.1) := by
          intro hm'
          obtain ⟨p, hp, rfl⟩ := List.mem_map.1 hm'
          exact absurd (List.find?_eq_none.1 hf p hp) (by simp)
        have ha : Allowed (k, v) := ⟨hl, hk.1, hk.2, hv⟩
        rw [ih]
        simp only [List.forall_mem_cons, List.map_cons, List.nodup_cons, ha, hm, true_and, not_false_eq_true]
        simp only [List.mem_cons, not_or, List.mem_map, not_exists, not_and]
        constructor
        · rintro ⟨h₁, h₂, h₃⟩
          exact ⟨h₁, ⟨fun kv hkv e => (h₃ kv hkv).1 e, h₂⟩, fun kv hkv => (h₃ kv hkv).2⟩
        · rintro ⟨h₁, ⟨h₂, h₃⟩, h₄⟩
          exact ⟨h₁, h₃, fun kv hkv => ⟨h₂ kv hkv, h₄ kv hkv⟩⟩
    · -- a value that is no juror's id fails to parse, or is the empty id
      have hno : ¬ ∀ kv ∈ (k, v) :: rest, Allowed kv := fun h => hv (h (k, v) List.mem_cons_self).2.2.2
      cases hp : SpeakerId.parse v with
      | error e =>
        simp only [reduceCtorEq, false_iff]
        exact fun h => hno h.1
      | ok id =>
        obtain ⟨rfl, hid⟩ := SpeakerId.parse_eq_ok.1 hp
        have he : id = "" := hid.resolve_right hv
        subst he
        have hset : SpeakerId.isSet "" = false := by decide
        simp only [hset, Bool.not_false, if_true, reduceCtorEq, false_iff]
        exact fun h => hno h.1

theorem perm_jurors_iff (l : List SpeakerId) :
    l.Perm (Juror.all.map Juror.id) ↔ l.length = 4 ∧ (∀ v ∈ l, SpeakerId.isValid v = true) ∧ l.Nodup := by
  have hn : (Juror.all.map Juror.id).Nodup := by decide
  constructor
  · intro h
    refine ⟨h.length_eq, fun v hv => (SpeakerId.isValid_iff_mem v).2 (h.subset hv), h.nodup_iff.2 hn⟩
  · rintro ⟨hl, hv, hd⟩
    refine (hd.subperm fun v hm => (SpeakerId.isValid_iff_mem v).1 (hv v hm)).perm_of_length_le ?_
    simp [hl, Juror.all]

theorem parse_perm_jurors_iff (l : List SpeakerId) :
    (l.map SpeakerId.parse).Perm (Juror.all.map fun j => .ok j.id) ↔ l.Perm (Juror.all.map Juror.id) := by
  have hj : (Juror.all.map fun j => (.ok j.id : Except Fault SpeakerId)) = (Juror.all.map Juror.id).map .ok := by
    simp
  have hinj : Function.Injective (Except.ok : SpeakerId → Except Fault SpeakerId) := fun _ _ h => Except.ok.inj h
  rw [hj]
  constructor
  · intro h
    -- every id parses to one of the jurors, hence to itself
    have hl : l.map SpeakerId.parse = l.map .ok := by
      refine List.map_congr_left fun v hv => ?_
      obtain ⟨_, -, hp⟩ := List.mem_map.1 (h.subset (List.mem_map_of_mem hv))
      exact (SpeakerId.parse_eq_ok.1 hp.symm).1 ▸ hp.symm
    rwa [hl, List.map_perm_map_iff hinj] at h
  · intro h
    have hl : l.map SpeakerId.parse = l.map .ok := by
      refine List.map_congr_left fun v hv => SpeakerId.parse_eq_ok.2 ⟨rfl, .inr ?_⟩
      exact (SpeakerId.isValid_iff_mem v).2 (h.subset hv)
    rwa [hl, List.map_perm_map_iff hinj]

theorem keys_sorted (k : KeyMap) : k.keys.Pairwise fun a b => decide (a ≤ b) := by
  apply List.pairwise_mergeSort
  · intro a b c hab hbc
    simp only [decide_eq_true_eq] at *
    exact le_trans hab hbc
  · intro a b
    simpa using le_total a b

theorem keys_perm (k : KeyMap) : k.keys.Perm (k.bindings.map (·.1)) := List.mergeSort_perm _ _

/-- The keys are listed in one order, whatever the order of the bindings. -/
theorem keys_eq_of_perm {k k' : KeyMap} (h : k.bindings.Perm k'.bindings) : k.keys = k'.keys :=
  List.Perm.eq_of_pairwise (fun a b _ _ hab hba => le_antisymm (by simpa using hab) (by simpa using hba))
    (keys_sorted k) (keys_sorted k') ((keys_perm k).trans ((h.map _).trans (keys_perm k').symm))

theorem ofTable_eq_ok {raw : List (String × String)} {km : KeyMap} :
    ofTable raw = .ok km ↔ raw.length = 4 ∧ checkEntries raw [] = .ok () ∧ km = ⟨raw⟩ := by
  unfold ofTable
  by_cases hl : raw.length = 4
  · simp only [hl, ne_eq, not_true_eq_false, if_false, true_and]
    cases checkEntries raw [] with
    | error e => simp
    | ok u => simp [eq_comm]
  · simp [hl]

theorem ofTable_ok_iff (raw : List (String × String)) :
    (∃ km, ofTable raw = .ok km) ↔ raw.length = 4 ∧ (∀ kv ∈ raw, Allowed kv) ∧ (raw.map (·.2)).Nodup := by
  simp [ofTable_eq_ok, checkEntries_eq_ok]

theorem lookup_eq_some_iff (l : List (String × SpeakerId)) (hkeys : (l.map (·.1)).Nodup) (k : String) (v : SpeakerId) :
    lookup ⟨l⟩ k = some v ↔ (k, v) ∈ l := by
  induction l with
  | nil => simp [lookup]
  | cons kv rest ih =>
    obtain ⟨k', v'⟩ := kv
    simp only [List.map_cons, List.nodup_cons] at hkeys
    have ih := ih hkeys.2
    simp only [lookup, List.find?_cons] at ih ⊢
    by_cases hk : k' = k
    · -- the first entry is the key's, and the key binds nothing further on
      subst hk
      have hr : (k', v) ∉ rest := fun hm => hkeys.1 (List.mem_map.2 ⟨_, hm, rfl⟩)
      simp [hr, eq_comm]
    · simp only [beq_false_of_ne hk]
      rw [ih]
      simp [Ne.symm hk]


/-! ## Key tables -/

/-- **Key tables.**  A table with distinct keys, its entries checked in any
order, is accepted exactly when it has four entries, each key lower case and no
rotation key, and its values parse to the four jurors, each once. Its map binds
each key as the table does, and a press of such a key, in any case, targets its
juror. Another order of the same entries is accepted or refused alike, and when
accepted makes the same map with the same keys. -/
theorem key_table_validation (raw : List (String × String)) (hkeys : (raw.map (·.1)).Nodup) :
    ((∃ km, ofTable raw = .ok km) ↔
        raw.length = 4 ∧ (∀ kv ∈ raw, kv.1 = Case.lower kv.1 ∧ kv.1 ≠ rotateLeftKey ∧ kv.1 ≠ rotateRightKey) ∧
          (raw.map fun kv => SpeakerId.parse kv.2).Perm (Juror.all.map fun j => .ok j.id)) ∧
      (∀ km, ofTable raw = .ok km →
        (∀ k v, km.lookup k = some v ↔ (k, v) ∈ raw) ∧ km.keys.Perm (raw.map (·.1)) ∧
          (km.bindings.map (·.2)).Perm (Juror.all.map Juror.id) ∧
          ∀ (c : Viewing.Controller) w k v, c.keys = km → (Case.lower k, v) ∈ raw →
            c.key k w = (Viewing.Controller.setTarget v Viewing.keyInput w, true)) ∧
      ∀ raw', raw'.Perm raw →
        ((∃ km, ofTable raw' = .ok km) ↔ ∃ km, ofTable raw = .ok km) ∧
        ∀ km km', ofTable raw = .ok km → ofTable raw' = .ok km' → km'.lookup = km.lookup ∧ km'.keys = km.keys := by
  -- a key binds what the table binds, whatever the order of its entries
  have hlookup : ∀ l : List (String × String), l.Perm raw → ∀ k v, lookup ⟨l⟩ k = some v ↔ (k, v) ∈ raw :=
    fun l h k v => (lookup_eq_some_iff l ((h.map _).nodup_iff.2 hkeys) k v).trans h.mem_iff
  refine ⟨?_, fun km hkm => ?_, fun raw' h => ⟨?_, fun km km' hkm hkm' => ?_⟩⟩
  · have hv : (raw.map fun kv => SpeakerId.parse kv.2) = (raw.map (·.2)).map SpeakerId.parse := by simp
    rw [ofTable_ok_iff, hv, parse_perm_jurors_iff, perm_jurors_iff]
    simp only [Allowed, List.length_map, List.forall_mem_map]
    constructor
    · rintro ⟨hl, ha, hd⟩
      exact ⟨hl, fun kv h => ⟨(ha kv h).1, (ha kv h).2.1, (ha kv h).2.2.1⟩, hl, fun kv h => (ha kv h).2.2.2, hd⟩
    · rintro ⟨hl, ha, -, hv, hd⟩
      exact ⟨hl, fun kv h => ⟨(ha kv h).1, (ha kv h).2.1, (ha kv h).2.2, hv kv h⟩, hd⟩
  · obtain ⟨hl, hc, rfl⟩ := ofTable_eq_ok.1 hkm
    obtain ⟨ha, hd, -⟩ := (checkEntries_eq_ok _ []).1 hc
    refine ⟨hlookup raw (.refl _), keys_perm _, (perm_jurors_iff _).2 ⟨by simp [hl], ?_, hd⟩, fun c w k v hc hm => ?_⟩
    · intro v hv
      obtain ⟨kv, hm, rfl⟩ := List.mem_map.1 hv
      exact (ha kv hm).2.2.2
    · -- a bound key is lower case and turns nothing, so the press looks it up
      obtain ⟨-, hq, he, -⟩ := ha _ hm
      apply Viewing.Controller.key_chooses
      simp only [Viewing.InputCall.chooses, hc]
      rw [if_neg (by simpa using And.intro hq he)]
      exact (hlookup raw (.refl _) _ _).2 hm
  · -- acceptance asks the same of every entry and of the values together
    simp only [ofTable_ok_iff, h.length_eq, h.mem_iff, (h.map (·.2)).nodup_iff]
  · obtain ⟨-, -, rfl⟩ := ofTable_eq_ok.1 hkm
    obtain ⟨-, -, rfl⟩ := ofTable_eq_ok.1 hkm'
    refine ⟨funext fun k => ?_, keys_eq_of_perm h⟩
    apply Option.ext
    intro v
    rw [hlookup raw' h, hlookup raw (.refl _)]

/-- The default bindings read in another order are accepted alike. -/
theorem default_table_any_order :
    ([("1", "juror-a"), ("2", "juror-b"), ("3", "juror-c"), ("4", "jury-foreman")].map (·.1)).Nodup ∧
      [("4", "jury-foreman"), ("2", "juror-b"), ("1", "juror-a"), ("3", "juror-c")].Perm
        [("1", "juror-a"), ("2", "juror-b"), ("3", "juror-c"), ("4", "jury-foreman")] ∧
      ((∃ km, ofTable [("4", "jury-foreman"), ("2", "juror-b"), ("1", "juror-a"), ("3", "juror-c")] = .ok km) ↔
        ∃ km, ofTable [("1", "juror-a"), ("2", "juror-b"), ("3", "juror-c"), ("4", "jury-foreman")] = .ok km) :=
  ⟨by decide, by decide, ((key_table_validation _ (by decide)).2.2 _ (by decide)).1⟩

end KeyMap
end JuryCaptions
