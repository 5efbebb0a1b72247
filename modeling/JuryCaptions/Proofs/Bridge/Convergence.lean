import JuryCaptions.Bridge.Broadcast
import JuryCaptions.Proofs.Scene.Sink
/-!
# Hosts hold the store's snapshot

The endpoint's hosts and the scene store move one goroutine step at a time
(`Broadcast.step`). Along every run, hosts are sent the frames that found room,
a closed endpoint holds no host, and a drained host whose queue never
overflowed holds the store's snapshot (`hosts_converge`); an unsendable value or
a half-done write breaks this (`unsendable_and_midway_writes_diverge`).

Two invariants carry the proof: `Broadcast.Orderly` says what every host's
frames are, `Broadcast.Tracks` that a host's frames and the pending patch give
the store. Each step keeps both; a run keeps them by induction.
-/

namespace JuryCaptions

/-- Whether a value can be sent to hosts: as patches carry it, it holds no
not-a-number and no infinity, which JSON cannot write. -/
def SceneValue.sendable (v : SceneValue) : Bool := (Host.sceneValueDoc v.encode).toBool

theorem SceneValue.sendable_float (x : Float) : (SceneValue.float x).sendable = !(x.isNaN || x.isInf) := by
  unfold sendable
  simp only [encode, Host.sceneValueDoc, Json.floatDoc]
  cases x.isNaN || x.isInf <;> rfl

theorem exists_ok_of_toBool {ε α : Type} {x : Except ε α} (h : x.toBool = true) : ∃ a, x = .ok a := by
  cases x with
  | error e => cases h
  | ok a => exact ⟨a, rfl⟩

namespace Patch

theorem keyBefore_irrefl (p : Patch) : ¬ p.KeyBefore p := by
  rintro (h | ⟨-, h⟩) <;> exact lt_irrefl _ h

end Patch

namespace SceneStore

variable {s : SceneStore}

theorem filter_snapshot (h : s.keys.Nodup) (e a : String) :
    s.snapshot.filter (Patch.isFor e a) = ((s.get? e a).map fun u => (⟨e, a, u.encode⟩ : Patch)).toList := by
  have hpw : (s.snapshot.filter (Patch.isFor e a)).Pairwise Patch.KeyBefore :=
    (snapshot_sorted h).sublist List.filter_sublist
  have hmem : ∀ p, p ∈ s.snapshot.filter (Patch.isFor e a) ↔
      ∃ u, s.get? e a = some u ∧ p = ⟨e, a, u.encode⟩ := by
    intro p
    rw [List.mem_filter, mem_snapshot h, Patch.isFor_eq_true]
    constructor
    · rintro ⟨⟨u, hu, hv⟩, rfl, rfl⟩
      exact ⟨u, hu, by rw [← hv]⟩
    · rintro ⟨u, hu, rfl⟩
      exact ⟨⟨u, hu, rfl⟩, rfl, rfl⟩
  cases hg : s.get? e a with
  | none =>
    refine List.eq_nil_iff_forall_not_mem.2 fun p hp => ?_
    obtain ⟨u, hu, -⟩ := (hmem p).1 hp
    rw [hg] at hu
    cases hu
  | some u =>
    -- every patch of the attribute is the stored one, and two of them would be out of order
    have hall : ∀ p ∈ s.snapshot.filter (Patch.isFor e a), p = ⟨e, a, u.encode⟩ := fun p hp => by
      obtain ⟨u', hu', rfl⟩ := (hmem p).1 hp
      rw [hg] at hu'
      cases hu'
      rfl
    have hin : (⟨e, a, u.encode⟩ : Patch) ∈ s.snapshot.filter (Patch.isFor e a) := (hmem _).2 ⟨u, hg, rfl⟩
    rcases hl : s.snapshot.filter (Patch.isFor e a) with _ | ⟨p, _ | ⟨q, rest⟩⟩
    · rw [hl] at hin
      cases hin
    · rw [hall p (by rw [hl]; exact .head _)]
      rfl
    · rw [hl] at hpw hall
      have hpq := List.rel_of_pairwise_cons hpw (.head _)
      rw [hall p (.head _), hall q (.tail _ (.head _))] at hpq
      exact absurd hpq (Patch.keyBefore_irrefl _)

theorem lastValue_snapshot (h : s.keys.Nodup) (e a : String) :
    lastValue s.snapshot e a = (s.get? e a).map SceneValue.encode := by
  unfold lastValue
  rw [filter_snapshot h]
  cases s.get? e a <;> rfl

theorem mem_values_set {e a : String} {v : SceneValue} {kv : (String × String) × SceneValue}
    (hkv : kv ∈ (s.set e a v).1.values) : kv ∈ s.values ∨ kv.2 = v := by
  rcases set_cases s e a v with ⟨u, -, -, he⟩ | ⟨u, -, -, he⟩ | ⟨-, he⟩ <;> rw [he] at hkv
  · exact .inl hkv
  · obtain ⟨⟨k, old⟩, hm, rfl⟩ := List.mem_map.1 hkv
    by_cases hk : k = (e, a)
    · exact .inr (by simp [hk])
    · exact .inl (by simpa [hk] using hm)
  · rcases List.mem_append.1 hkv with hm | hm
    · exact .inl hm
    · exact .inr (by rw [List.mem_singleton.1 hm])

end SceneStore

namespace Bridge

/-! ## Messages -/

theorem patchDoc_ok {p : Patch} {j : Json} (h : Host.sceneValueDoc p.value = .ok j) :
    Host.patchDoc p = .ok (.obj [("entity", .str p.entity), ("attribute", .str p.attr), ("value", j)]) := by
  simp [Host.patchDoc, h, bind, Except.bind, pure, Except.pure]

theorem patchMessage_ok {p : Patch} (h : (Host.sceneValueDoc p.value).toBool = true) :
    ∃ t, patchMessage p = .ok t := by
  obtain ⟨j, hj⟩ := exists_ok_of_toBool h
  rw [patchMessage, patchDoc_ok hj]
  exact ⟨_, rfl⟩

theorem snapshotMessage_ok {ps : List Patch} (h : ∀ p ∈ ps, (Host.sceneValueDoc p.value).toBool = true) :
    ∃ t, snapshotMessage ps = .ok t := by
  have hdocs : ∃ js, ps.mapM Host.patchDoc = .ok js := by
    induction ps with
    | nil => exact ⟨[], rfl⟩
    | cons p ps ih =>
      obtain ⟨j, hj⟩ := exists_ok_of_toBool (h p (.head _))
      obtain ⟨js, hjs⟩ := ih fun q hq => h q (.tail _ hq)
      rw [List.mapM_cons, patchDoc_ok hj, hjs]
      exact ⟨_, rfl⟩
  obtain ⟨js, hjs⟩ := hdocs
  rw [snapshotMessage, hjs]
  exact ⟨_, rfl⟩

/-! ## One host's connection -/

namespace Link

variable {l : Link} {size : Nat} {f : Frame}

@[simp] theorem sent_offer : (l.offer size f).1.sent = l.sent := by
  unfold offer
  split <;> rfl

theorem overflowed_offer :
    (l.offer size f).1.overflowed = (l.overflowed || !decide (l.queue.length < size)) := by
  unfold offer overflowed
  split <;> simp [*]

theorem queue_offer_of_lt (h : l.queue.length < size) : (l.offer size f).1.queue = l.queue ++ [f] := by
  simp [offer, h]

theorem kept_offer (h : l.sent ++ l.queue = (l.offered.filter (·.2)).map (·.1)) :
    (l.offer size f).1.sent ++ (l.offer size f).1.queue =
      ((l.offer size f).1.offered.filter (·.2)).map (·.1) := by
  unfold offer
  split
  · simp [← h]
  · simpa using h

theorem frames_offer (h : (l.offer size f).1.overflowed = false) :
    l.overflowed = false ∧ (l.offer size f).1.sent ++ (l.offer size f).1.queue = l.sent ++ l.queue ++ [f] := by
  rw [overflowed_offer, Bool.or_eq_false_iff, Bool.not_eq_false', decide_eq_true_eq] at h
  rw [sent_offer, queue_offer_of_lt h.2, List.append_assoc]
  exact ⟨h.1, rfl⟩

end Link

/-! ## What each step does -/

namespace Broadcast

variable {b b' : Broadcast}

theorem step_write {e a : String} {v : SceneValue} (hs : b.step (.write e a v) = some b') :
    b.pending = none ∧ b' = { b with store := (b.store.set e a v).1, pending := (b.store.set e a v).2 } := by
  unfold step at hs
  cases hp : b.pending with
  | some p => simp [hp] at hs
  | none =>
    simp only [hp, Option.isSome_none, Bool.false_eq_true, if_false, Option.some.injEq] at hs
    exact ⟨rfl, hs.symm⟩

theorem step_push (hs : b.step .push = some b') :
    ∃ p, b.pending = some p ∧
      ((∃ f, patchMessage p = .error f ∧ b' = { b with pending := none, logs := b.logs ++ [patchFailure p f] }) ∨
        (∃ t, patchMessage p = .ok t ∧ b' = { b.broadcast (.patch p) with pending := none })) := by
  unfold step at hs
  cases hp : b.pending with
  | none => simp [hp] at hs
  | some p =>
    simp only [hp] at hs
    cases hm : patchMessage p with
    | error f =>
      simp only [hm, Option.some.injEq] at hs
      exact ⟨p, rfl, .inl ⟨f, hm, hs.symm⟩⟩
    | ok t =>
      simp only [hm, Option.some.injEq] at hs
      exact ⟨p, rfl, .inr ⟨t, hm, hs.symm⟩⟩

theorem step_connect : b.step .connect = some (if b.closed then b else { b with links := b.links ++ [b.greeting] }) := by
  unfold step
  cases b.closed <;> rfl

theorem step_deliver {i : Nat} (hs : b.step (.deliver i) = some b') :
    ∃ l f rest, b.links[i]? = some l ∧ l.live = true ∧ l.queue = f :: rest ∧
      b' = { b with links := b.links.set i { l with queue := rest, sent := l.sent ++ [f] } } := by
  unfold step at hs
  cases hl : b.links[i]? with
  | none => simp [hl] at hs
  | some l =>
    rcases l with ⟨_ | ⟨f, rest⟩, sent, offered, _ | _⟩ <;> simp only [hl] at hs
    · cases hs
    · cases hs
    · cases hs
    · exact ⟨_, f, rest, rfl, rfl, rfl, (Option.some.inj hs).symm⟩

theorem step_leave {i : Nat} (hs : b.step (.leave i) = some b') :
    ∃ l, b.links[i]? = some l ∧ l.live = true ∧ b' = { b with links := b.links.set i { l with live := false } } := by
  unfold step at hs
  cases hl : b.links[i]? with
  | none => simp [hl] at hs
  | some l =>
    rcases l with ⟨queue, sent, offered, _ | _⟩ <;> simp only [hl] at hs
    · cases hs
    · exact ⟨_, rfl, rfl, (Option.some.inj hs).symm⟩

theorem step_close : b.step .close = some { b with closed := true, links := b.links.map fun l => { l with live := false } } :=
  rfl

theorem mem_broadcast {f : Frame} {l' : Link} (h : l' ∈ (b.broadcast f).links) :
    ∃ l ∈ b.links, (l.live = true ∧ l' = (l.offer b.queueSize f).1) ∨ (l.live = false ∧ l' = l) := by
  obtain ⟨⟨l₁, logs⟩, hm, rfl⟩ := List.mem_map.1 h
  obtain ⟨l, hl, he⟩ := List.mem_map.1 hm
  refine ⟨l, hl, ?_⟩
  cases hlive : l.live
  · simp only [hlive, Bool.false_eq_true, if_false] at he
    exact .inr ⟨rfl, (Prod.mk.inj he).1.symm⟩
  · simp only [hlive, if_true] at he
    exact .inl ⟨rfl, by rw [he]⟩

theorem closed_step (hc : b.closed = true) {s : BroadcastStep} (hs : b.step s = some b') : b'.closed = true := by
  cases s with
  | write e a v =>
    obtain ⟨-, rfl⟩ := step_write hs
    exact hc
  | push =>
    obtain ⟨p, -, ⟨f, -, rfl⟩ | ⟨t, -, rfl⟩⟩ := step_push hs <;> exact hc
  | connect =>
    rw [step_connect, if_pos hc, Option.some.injEq] at hs
    rw [← hs]
    exact hc
  | deliver i =>
    obtain ⟨l, f, rest, -, -, -, rfl⟩ := step_deliver hs
    exact hc
  | leave i =>
    obtain ⟨l, -, -, rfl⟩ := step_leave hs
    exact hc
  | close =>
    rw [step_close, Option.some.injEq] at hs
    rw [← hs]

theorem closed_run (hc : b.closed = true) {ss : List BroadcastStep} (hr : b.run ss = some b') : b'.closed = true := by
  induction ss generalizing b with
  | nil =>
    cases hr
    exact hc
  | cons s ss ih =>
    obtain ⟨b₁, hb₁, hr⟩ := Option.bind_eq_some_iff.1 hr
    exact ih (closed_step hc hb₁) hr

end Broadcast

/-! ## Every host is sent the frames that found room -/

/-- Each host is sent exactly the frames that found room in its queue, in order,
and once the endpoint is closed no host is connected. -/
structure Broadcast.Orderly (b : Broadcast) : Prop where
  kept : ∀ l ∈ b.links, l.sent ++ l.queue = (l.offered.filter (·.2)).map (·.1)
  quiet : b.closed = true → ∀ l ∈ b.links, l.live = false

namespace Broadcast.Orderly

variable {b b' : Broadcast}

theorem start (size : Nat) : ({ queueSize := size } : Broadcast).Orderly :=
  ⟨fun _ h => absurd h List.not_mem_nil, fun h => absurd h Bool.false_ne_true⟩

theorem step (h : b.Orderly) {s : BroadcastStep} (hs : b.step s = some b') : b'.Orderly := by
  cases s with
  | write e a v =>
    obtain ⟨-, rfl⟩ := Broadcast.step_write hs
    exact ⟨h.kept, h.quiet⟩
  | push =>
    obtain ⟨p, -, ⟨f, -, rfl⟩ | ⟨t, -, rfl⟩⟩ := Broadcast.step_push hs
    · exact ⟨h.kept, h.quiet⟩
    · refine ⟨fun l' hl' => ?_, fun hc l' hl' => ?_⟩
      · obtain ⟨l, hl, ⟨-, rfl⟩ | ⟨-, rfl⟩⟩ := Broadcast.mem_broadcast hl'
        · exact Link.kept_offer (h.kept _ hl)
        · exact h.kept _ hl
      · -- once closed, no host is connected, so a push reaches nobody
        obtain ⟨l, hl, ⟨hlive, -⟩ | ⟨-, rfl⟩⟩ := Broadcast.mem_broadcast hl'
        · exact absurd hlive (by rw [h.quiet hc l hl]; exact Bool.false_ne_true)
        · exact h.quiet hc l' hl
  | connect =>
    rw [Broadcast.step_connect, Option.some.injEq] at hs
    subst hs
    split
    · exact h
    · rename_i hc
      refine ⟨fun l' hl' => ?_, fun hc' => absurd hc' hc⟩
      rcases List.mem_append.1 hl' with hl | hl
      · exact h.kept l' hl
      · rw [List.mem_singleton.1 hl]
        unfold Broadcast.greeting
        split
        · exact Link.kept_offer rfl
        · rfl
  | deliver i =>
    obtain ⟨l, f, rest, hl, hlive, hq, rfl⟩ := Broadcast.step_deliver hs
    refine ⟨fun l' hl' => ?_, fun hc => ?_⟩
    · rcases List.mem_or_eq_of_mem_set hl' with hm | rfl
      · exact h.kept l' hm
      · rw [← h.kept l (List.mem_of_getElem? hl), hq]
        simp
    · -- a connected host is delivered to, so the endpoint is not closed
      have hdead := h.quiet hc l (List.mem_of_getElem? hl)
      rw [hlive] at hdead
      cases hdead
  | leave i =>
    obtain ⟨l, hl, hlive, rfl⟩ := Broadcast.step_leave hs
    refine ⟨fun l' hl' => ?_, fun hc l' hl' => ?_⟩
    · rcases List.mem_or_eq_of_mem_set hl' with hm | rfl
      · exact h.kept l' hm
      · exact h.kept l (List.mem_of_getElem? hl)
    · rcases List.mem_or_eq_of_mem_set hl' with hm | rfl
      · exact h.quiet hc l' hm
      · rfl
  | close =>
    rw [Broadcast.step_close, Option.some.injEq] at hs
    subst hs
    refine ⟨fun l' hl' => ?_, fun _ l' hl' => ?_⟩
    · obtain ⟨l, hl, rfl⟩ := List.mem_map.1 hl'
      exact h.kept l hl
    · obtain ⟨l, -, rfl⟩ := List.mem_map.1 hl'
      rfl

theorem run (h : b.Orderly) {ss : List BroadcastStep} (hr : b.run ss = some b') : b'.Orderly := by
  induction ss generalizing b with
  | nil =>
    cases hr
    exact h
  | cons s ss ih =>
    obtain ⟨b₁, hb₁, hr⟩ := Option.bind_eq_some_iff.1 hr
    exact ih (h.step hb₁) hr

end Broadcast.Orderly

/-! ## Connected hosts hold what the store holds -/

/-- Whether a step writes only what can be sent. -/
def BroadcastStep.sendable : BroadcastStep → Bool
  | .write _ _ v => v.sendable
  | _ => true

/-- The endpoint greets; the store keeps its attributes apart and holds only
sendable values; the pending patch carries its attribute's stored value; a host
that never overflowed, given its frames and the pending patch, holds the store. -/
structure Broadcast.Tracks (b : Broadcast) : Prop where
  greets : b.greets = true
  nodup : b.store.keys.Nodup
  sendable : ∀ kv ∈ b.store.values, kv.2.sendable = true
  pending : ∀ p, b.pending = some p → ∃ u, b.store.get? p.entity p.attr = some u ∧ p.value = u.encode
  hosts : ∀ l ∈ b.links, l.live = true → l.overflowed = false → ∀ e a,
    lastValue ((l.sent ++ l.queue).flatMap Frame.patches ++ b.pending.toList) e a =
      (b.store.get? e a).map SceneValue.encode

namespace Broadcast.Tracks

variable {b b' : Broadcast}

theorem start (size : Nat) : ({ queueSize := size } : Broadcast).Tracks where
  greets := rfl
  nodup := List.nodup_nil
  sendable _ h := absurd h List.not_mem_nil
  pending _ h := by cases h
  hosts _ h := absurd h List.not_mem_nil

theorem snapshot_sendable (h : b.Tracks) :
    ∀ p ∈ b.store.snapshot, (Host.sceneValueDoc p.value).toBool = true := by
  intro p hp
  obtain ⟨u, hu, hv⟩ := (SceneStore.mem_snapshot h.nodup p).1 hp
  rw [hv]
  exact h.sendable _ ((SceneStore.get?_eq_some_iff h.nodup).1 hu)

theorem pending_ok (h : b.Tracks) {p : Patch} (hp : b.pending = some p) : ∃ t, patchMessage p = .ok t := by
  obtain ⟨u, hu, hv⟩ := h.pending p hp
  refine patchMessage_ok ?_
  rw [hv]
  exact h.sendable _ ((SceneStore.get?_eq_some_iff h.nodup).1 hu)

/-- A host that applies the snapshot and then the pending patch holds what the
store holds: the pending patch repeats a value the snapshot has. -/
theorem snapshot_then_pending (h : b.Tracks) (e a : String) :
    lastValue (b.store.snapshot ++ b.pending.toList) e a = (b.store.get? e a).map SceneValue.encode := by
  cases hp : b.pending with
  | none => simpa using SceneStore.lastValue_snapshot h.nodup e a
  | some p =>
    obtain ⟨u, hu, hv⟩ := h.pending p hp
    rw [Option.toList_some, lastValue_append, lastValue_singleton, SceneStore.lastValue_snapshot h.nodup]
    by_cases hfor : p.isFor e a
    · rw [if_pos hfor]
      obtain ⟨rfl, rfl⟩ := Patch.isFor_eq_true.1 hfor
      rw [hu, hv]
      rfl
    · rw [if_neg hfor]
      rfl

theorem greeting_frames (h : b.Tracks) (hov : b.greeting.overflowed = false) :
    b.greeting.sent ++ b.greeting.queue = [.snapshot b.store.snapshot] := by
  obtain ⟨t, ht⟩ := snapshotMessage_ok h.snapshot_sendable
  have hg : b.greeting = (({} : Link).offer b.queueSize (.snapshot b.store.snapshot)).1 := by
    unfold greeting
    rw [h.greets, ht]
  rw [hg] at hov ⊢
  exact (Link.frames_offer hov).2

theorem of_links (h : b.Tracks) (hg : b'.greets = b.greets) (hs : b'.store = b.store) (hp : b'.pending = b.pending)
    (hl : ∀ l' ∈ b'.links, l'.live = true → l'.overflowed = false →
      ∃ l ∈ b.links, l.live = true ∧ l.overflowed = false ∧ l.sent ++ l.queue = l'.sent ++ l'.queue) :
    b'.Tracks where
  greets := hg.trans h.greets
  nodup := hs ▸ h.nodup
  sendable := hs ▸ h.sendable
  pending := hs ▸ hp ▸ h.pending
  hosts l' hl' hlive hov e a := by
    obtain ⟨l, hm, hlive', hov', hframes⟩ := hl l' hl' hlive hov
    rw [← hframes, hs, hp]
    exact h.hosts l hm hlive' hov' e a

/-- A write stores its value and makes its patch pending. -/
theorem write (h : b.Tracks) {e a : String} {v : SceneValue} (hv : v.sendable = true)
    (hs : b.step (.write e a v) = some b') : b'.Tracks := by
  obtain ⟨hnone, rfl⟩ := step_write hs
  refine ⟨h.greets, SceneStore.keys_set_nodup h.nodup, fun kv hkv => ?_, fun p hp => ?_, fun l hl hlive hov e' a' => ?_⟩
  · rcases SceneStore.mem_values_set hkv with hm | hkv
    · exact h.sendable kv hm
    · rw [hkv]
      exact hv
  · -- the patch carries the written value, now stored
    have hp' : (b.store.set e a v).2 = some p := hp
    have hsent : (b.store.set e a v).2.isSome := by
      rw [hp']
      rfl
    obtain rfl := SceneStore.set_sent hp'
    refine ⟨v, ?_, rfl⟩
    rw [SceneStore.get?_set_of_sent hsent, if_pos ⟨rfl, rfl⟩]
  · have hold := h.hosts l hl hlive hov
    rw [hnone, Option.toList_none, List.append_nil] at hold
    cases hp : (b.store.set e a v).2 with
    | none =>
      rw [Option.toList_none, List.append_nil, SceneStore.set_unchanged hp]
      exact hold e' a'
    | some p =>
      obtain rfl := SceneStore.set_sent hp
      have hsent : (b.store.set e a v).2.isSome := by
        rw [hp]
        rfl
      rw [Option.toList_some, lastValue_append, lastValue_singleton, SceneStore.get?_set_of_sent hsent, hold]
      by_cases he : e' = e ∧ a' = a
      · obtain ⟨rfl, rfl⟩ := he
        simp
      · have hfor : ¬ (⟨e, a, v.encode⟩ : Patch).isFor e' a' = true := fun hfor => by
          obtain ⟨h₁, h₂⟩ := Patch.isFor_eq_true.1 hfor
          exact he ⟨h₁.symm, h₂.symm⟩
        rw [if_neg he, if_neg hfor]
        rfl

/-- A push queues the pending patch for every connected host with room. -/
theorem push (h : b.Tracks) (hs : b.step .push = some b') : b'.Tracks := by
  obtain ⟨p, hp, ⟨f, hf, -⟩ | ⟨t, -, rfl⟩⟩ := step_push hs
  · obtain ⟨t, ht⟩ := h.pending_ok hp
    rw [ht] at hf
    cases hf
  · refine ⟨h.greets, h.nodup, h.sendable, fun _ hq => absurd hq.symm (Option.some_ne_none _), fun l' hl' hlive hov e a => ?_⟩
    obtain ⟨l, hl, ⟨hlive', rfl⟩ | ⟨hdead, rfl⟩⟩ := mem_broadcast hl'
    · obtain ⟨hov', hframes⟩ := Link.frames_offer hov
      have hold := h.hosts l hl hlive' hov' e a
      rw [hp, Option.toList_some] at hold
      show lastValue (_ ++ []) e a = _
      rw [hframes, List.append_nil, List.flatMap_append]
      exact hold
    · rw [hdead] at hlive
      cases hlive

/-- A host that connects is queued the snapshot, which with the pending patch is
what the store holds. -/
theorem connect (h : b.Tracks) (hs : b.step .connect = some b') : b'.Tracks := by
  rw [step_connect, Option.some.injEq] at hs
  subst hs
  split
  · exact h
  · refine ⟨h.greets, h.nodup, h.sendable, h.pending, fun l hl hlive hov e a => ?_⟩
    rcases List.mem_append.1 hl with hm | hm
    · exact h.hosts l hm hlive hov e a
    · rw [List.mem_singleton.1 hm] at hov ⊢
      show lastValue ((b.greeting.sent ++ b.greeting.queue).flatMap Frame.patches ++ b.pending.toList) e a = _
      rw [h.greeting_frames hov, List.flatMap_cons, List.flatMap_nil, List.append_nil]
      exact h.snapshot_then_pending e a

theorem step (h : b.Tracks) {s : BroadcastStep} (hsend : s.sendable = true) (hs : b.step s = some b') :
    b'.Tracks := by
  cases s with
  | write e a v => exact h.write hsend hs
  | push => exact h.push hs
  | connect => exact h.connect hs
  | deliver i =>
    -- the frame sent leaves the queue for the sent frames, in the same order
    obtain ⟨l, f, rest, hl, hlive, hq, rfl⟩ := step_deliver hs
    refine h.of_links rfl rfl rfl fun l' hl' hlive' hov => ?_
    rcases List.mem_or_eq_of_mem_set hl' with hm | rfl
    · exact ⟨l', hm, hlive', hov, rfl⟩
    · exact ⟨l, List.mem_of_getElem? hl, hlive, hov, by simp [hq]⟩
  | leave i =>
    obtain ⟨l, -, -, rfl⟩ := step_leave hs
    refine h.of_links rfl rfl rfl fun l' hl' hlive' hov => ?_
    rcases List.mem_or_eq_of_mem_set hl' with hm | rfl
    · exact ⟨l', hm, hlive', hov, rfl⟩
    · cases hlive'
  | close =>
    rw [step_close, Option.some.injEq] at hs
    subst hs
    refine h.of_links rfl rfl rfl fun l' hl' hlive' _ => ?_
    obtain ⟨l, -, rfl⟩ := List.mem_map.1 hl'
    cases hlive'

theorem run (h : b.Tracks) {ss : List BroadcastStep} (hsend : ∀ s ∈ ss, s.sendable = true)
    (hr : b.run ss = some b') : b'.Tracks := by
  induction ss generalizing b with
  | nil =>
    cases hr
    exact h
  | cons s ss ih =>
    obtain ⟨b₁, hb₁, hr⟩ := Option.bind_eq_some_iff.1 hr
    exact ih (h.step (hsend s (.head _)) hb₁) (fun s' hs' => hsend s' (.tail _ hs')) hr

end Broadcast.Tracks

/-- **Hosts hold the store's snapshot.**  Along every run from an empty store and
an endpoint that greets with a snapshot and queues at most `size` frames a host:
every host is sent, in order, the frames that found room; a closed endpoint has
no host; and when every value written can be sent, a drained host that never
overflowed, with no write half done, holds exactly the snapshot. -/
theorem hosts_converge {size : Nat} {ss : List BroadcastStep} {b : Broadcast}
    (hr : ({ queueSize := size } : Broadcast).run ss = some b) :
    (∀ l ∈ b.links, l.sent ++ l.queue = (l.offered.filter (·.2)).map (·.1)) ∧
    (b.closed = true → ∀ more b', b.run more = some b' → ∀ l ∈ b'.links, l.live = false) ∧
    ((∀ s ∈ ss, s.sendable = true) → ∀ l ∈ b.links, l.live = true → l.overflowed = false →
      l.queue = [] → b.pending = none →
      ∀ p : Patch, p ∈ b.store.snapshot ↔ lastValue (l.sent.flatMap Frame.patches) p.entity p.attr = some p.value) := by
  have ho := (Broadcast.Orderly.start size).run hr
  refine ⟨ho.kept, fun hc more b' hr' => (ho.run hr').quiet (Broadcast.closed_run hc hr'), ?_⟩
  intro hsend l hl hlive hov hq hp p
  have ht := (Broadcast.Tracks.start size).run hsend hr
  -- with the queue drained and no patch pending, the host's frames alone give the store
  have hhost := ht.hosts l hl hlive hov p.entity p.attr
  rw [hq, hp, List.append_nil, Option.toList_none, List.append_nil] at hhost
  rw [SceneStore.mem_snapshot ht.nodup, hhost]
  constructor
  · rintro ⟨u, hu, hv⟩
    rw [hu, hv]
    rfl
  · intro hsome
    obtain ⟨u, hu, hv⟩ := Option.map_eq_some_iff.1 hsome
    exact ⟨u, hu, hv.symm⟩

theorem Broadcast.exists_run_of_any {b₀ : Broadcast} {ss : List BroadcastStep} {P : Broadcast → Prop}
    [DecidablePred P] (h : ((b₀.run ss).any fun b => decide (P b)) = true) : ∃ b, b₀.run ss = some b ∧ P b := by
  obtain ⟨b, hb, hP⟩ := (Option.any_eq_true _ _).1 h
  exact ⟨b, hb, of_decide_eq_true hP⟩

/-- A host that connects between a write's two moves: its snapshot has the value,
and the push sends it again. -/
def midwayConnect : List BroadcastStep :=
  [.write "caption" "opacity" (.float 1), .connect, .push, .deliver 0, .deliver 0]

theorem hosts_converge_midway :
    ∃ b, ({ queueSize := 4 } : Broadcast).run midwayConnect = some b ∧
      ∀ l ∈ b.links, l.live = true → l.overflowed = false → l.queue = [] → b.pending = none →
        ∀ p : Patch, p ∈ b.store.snapshot ↔ lastValue (l.sent.flatMap Frame.patches) p.entity p.attr = some p.value := by
  obtain ⟨b, hb⟩ := Option.isSome_iff_exists.1
    (by decide +kernel : (({ queueSize := 4 } : Broadcast).run midwayConnect).isSome = true)
  exact ⟨b, hb, (hosts_converge hb).2.2 (by decide +kernel)⟩

/-- A host connects, a not-a-number is written and pushed, and the host is sent
what is queued for it. -/
def unsendableWrite : List BroadcastStep :=
  [.connect, .write "caption" "opacity" (.float (0 / 0)), .push, .deliver 0]

/-- A host connects, a value is stored and not yet pushed, and the host is sent
what is queued for it. -/
def midwayWrite : List BroadcastStep :=
  [.connect, .write "caption" "opacity" (.float 1), .deliver 0]

/-- A connected host that never overflowed and was sent everything queued for it
lacks a value the snapshot holds: after a not-a-number was written and pushed,
and while a write is between its two moves. -/
theorem unsendable_and_midway_writes_diverge :
    (∃ b, ({ queueSize := 4 } : Broadcast).run unsendableWrite = some b ∧
      ∃ l ∈ b.links, l.live = true ∧ l.overflowed = false ∧ l.queue.isEmpty = true ∧ b.pending.isNone = true ∧
        (lastValue b.store.snapshot "caption" "opacity").isSome = true ∧
        (lastValue (l.sent.flatMap Frame.patches) "caption" "opacity").isNone = true) ∧
    (∃ b, ({ queueSize := 4 } : Broadcast).run midwayWrite = some b ∧
      ∃ l ∈ b.links, l.live = true ∧ l.overflowed = false ∧ l.queue.isEmpty = true ∧
        (lastValue b.store.snapshot "caption" "opacity").isSome = true ∧
        (lastValue (l.sent.flatMap Frame.patches) "caption" "opacity").isNone = true) :=
  ⟨Broadcast.exists_run_of_any (by decide +kernel), Broadcast.exists_run_of_any (by decide +kernel)⟩

end Bridge
end JuryCaptions
