import JuryCaptions.Dispatch.Steps
/-!
# Buffered handlers deliver every queued event once, in order

`buffered_delivery` holds in every state reached from a fresh dispatcher. The
invariant `Hub.Sound` holds at the start (`sound_empty`), each move keeps it
(`Sound.step`, one lemma per kind of move), and `Sound.run` carries it along.
-/

namespace JuryCaptions
namespace Dispatch
namespace Hub

variable {h h' : Hub} {t t' i j : Nat} {e e' : Event} {p : Progress} {c c' : Channel}

/-! ## What each move changes -/

@[simp] theorem advance_channels : (h.advance t e p).channels = h.channels := rfl
@[simp] theorem advance_closed : (h.advance t e p).closed = h.closed := rfl

theorem calls_advance_self (ht : t < h.calls.length) : (h.advance t e p).calls[t]? = some (e, p) :=
  List.getElem?_set_self ht

theorem calls_advance_of_ne (ht : t ≠ t') : (h.advance t e p).calls[t']? = h.calls[t']? :=
  List.getElem?_set_ne ht

@[simp] theorem putIn_calls : (h.putIn i t c).calls = h.calls := rfl
@[simp] theorem putIn_closed : (h.putIn i t c).closed = h.closed := rfl

theorem lt_length_of_getElem? {α : Type} {l : List α} {n : Nat} {a : α} (hl : l[n]? = some a) : n < l.length :=
  (List.getElem?_eq_some_iff.1 hl).1

theorem getElem?_snoc_eq_some {α : Type} {l : List α} {a b : α} {n : Nat} (h : (l ++ [a])[n]? = some b) :
    l[n]? = some b ∨ a = b := by
  rw [List.getElem?_append] at h
  split at h
  · exact .inl h
  · rw [List.getElem?_singleton] at h
    split at h
    · exact .inr (Option.some.inj h)
    · cases h

theorem channels_putIn_self (hi : h.channels[i]? = some c) :
    (h.putIn i t c).channels[i]? = some { c with waiting := c.waiting ++ [t], taken := c.taken ++ [t] } :=
  List.getElem?_set_self (lt_length_of_getElem? hi)

theorem channels_putIn_of_ne (hij : i ≠ j) : (h.putIn i t c).channels[j]? = h.channels[j]? :=
  List.getElem?_set_ne hij

theorem not_blocked_of_readLocked (hl : h.readLocked = false) (ht : h.calls[t]? = some (e, .blocked i)) : False := by
  have hmem : (e, Progress.blocked i) ∈ h.calls := List.mem_of_getElem? ht
  have := List.any_eq_false.1 hl _ hmem
  simp [Progress.holdsReadLock] at this

/-! ## The answers a dispatch can get -/

theorem queued_ne_crash : queuedOutcome ≠ closedChannelCrash := by
  simp [queuedOutcome, closedChannelCrash]

theorem route_ne_crash : h.route e ≠ .answered closedChannelCrash := by
  unfold route
  split
  · simp [closedOutcome, closedChannelCrash]
  · split
    · simp [unknownOutcome, closedChannelCrash, Fault.plain]
    · split <;> simp

theorem route_ne_blocked : h.route e ≠ .blocked i := by
  unfold route
  split
  · simp
  · split
    · simp
    · split <;> simp

theorem outcome_ne_crash (b : Behaviour) : Dispatcher.outcome b e ≠ closedChannelCrash := by
  cases b <;> simp [Dispatcher.outcome, closedChannelCrash, Fault.plain]

theorem queueFull_ne_queued (cmd : String) : queueFullOutcome cmd ≠ queuedOutcome := by
  simp [queueFullOutcome, queuedOutcome]

/-! ## The invariant -/

/-- What holds in every state a run reaches. -/
structure Sound (h : Hub) : Prop where
  /-- The worker handled the first events put in; the rest wait, in order. -/
  fifo : ∀ (i : Nat) (c : Channel), h.channels[i]? = some c → c.handled ++ c.waiting = c.taken
  bounded : ∀ (i : Nat) (c : Channel), h.channels[i]? = some c → c.waiting.length ≤ c.capacity
  nodup : ∀ (i : Nat) (c : Channel), h.channels[i]? = some c → c.taken.Nodup
  /-- Only a dispatch answered `queued` has its event in a channel. -/
  queued : ∀ (i : Nat) (c : Channel) (t : Nat), h.channels[i]? = some c → t ∈ c.taken →
    ∃ e, h.calls[t]? = some (e, .answered queuedOutcome)
  /-- No event is put in two channels. -/
  once : ∀ (i j : Nat) (c c' : Channel) (t : Nat), h.channels[i]? = some c → h.channels[j]? = some c' →
    t ∈ c.taken → t ∈ c'.taken → i = j
  /-- Before `Close`, no channel is closed. -/
  unshut : h.closed = false → ∀ (i : Nat) (c : Channel), h.channels[i]? = some c → c.shut = false
  /-- A blocking send waits only while the dispatcher is open. -/
  blockedOpen : ∀ (t : Nat) (e : Event) (i : Nat), h.calls[t]? = some (e, .blocked i) → h.closed = false
  noCrash : ∀ (t : Nat) (e : Event), h.calls[t]? ≠ some (e, .answered closedChannelCrash)

theorem sound_empty : Sound {} where
  fifo := by simp
  bounded := by simp
  nodup := by simp
  queued := by simp
  once := by simp
  unshut := by simp
  blockedOpen := by simp
  noCrash := by simp

theorem Sound.not_taken (hs : Sound h) (ht : h.calls[t]? = some (e, p)) (hp : p ≠ .answered queuedOutcome)
    (hi : h.channels[i]? = some c) : t ∉ c.taken := by
  intro hmem
  obtain ⟨e', he'⟩ := hs.queued i c t hi hmem
  rw [ht] at he'
  exact hp (Prod.mk.inj (Option.some.inj he')).2

/-! ## Moves that touch only the dispatches -/

/-- Moving on a dispatch that is not answered `queued`, to anything but a crash
or a wait on a closed dispatcher, keeps the invariant. -/
theorem Sound.advance (hs : Sound h) (ht : h.calls[t]? = some (e, p)) (hp : p ≠ .answered queuedOutcome)
    {q : Progress} (hq : q ≠ .answered closedChannelCrash) (hqb : ∀ i, q = .blocked i → h.closed = false) :
    Sound (h.advance t e q) where
  fifo := hs.fifo
  bounded := hs.bounded
  nodup := hs.nodup
  queued i c t' hi hmem := by
    have hne : t ≠ t' := by rintro rfl; exact hs.not_taken ht hp hi hmem
    rw [calls_advance_of_ne hne]
    exact hs.queued i c t' hi hmem
  once := hs.once
  unshut := hs.unshut
  blockedOpen t' e' i' ht' := by
    by_cases hne : t = t'
    · subst hne
      rw [calls_advance_self (lt_length_of_getElem? ht)] at ht'
      exact hqb i' (Prod.mk.inj (Option.some.inj ht')).2
    · rw [calls_advance_of_ne hne] at ht'
      exact hs.blockedOpen t' e' i' ht'
  noCrash t' e' := by
    by_cases hne : t = t'
    · subst hne
      rw [calls_advance_self (lt_length_of_getElem? ht)]
      intro heq
      exact hq (Prod.mk.inj (Option.some.inj heq)).2
    · rw [calls_advance_of_ne hne]
      exact hs.noCrash t' e'

theorem Sound.dispatch (hs : Sound h) (e : Event) : Sound { h with calls := h.calls ++ [(e, h.route e)] } where
  fifo := hs.fifo
  bounded := hs.bounded
  nodup := hs.nodup
  queued i c t hi hmem := by
    obtain ⟨e', he'⟩ := hs.queued i c t hi hmem
    exact ⟨e', by rw [List.getElem?_append_left (lt_length_of_getElem? he')]; exact he'⟩
  once := hs.once
  unshut := hs.unshut
  blockedOpen t e' i ht := by
    rcases getElem?_snoc_eq_some ht with ht | ht
    · exact hs.blockedOpen t e' i ht
    · exact absurd (Prod.mk.inj ht).2 route_ne_blocked
  noCrash t e' ht := by
    rcases getElem?_snoc_eq_some ht with ht | ht
    · exact hs.noCrash t e' ht
    · exact route_ne_crash (Prod.mk.inj ht).2

theorem Sound.of_same (hs : Sound h) (hch : h'.channels = h.channels) (hcl : h'.closed = h.closed)
    (hca : h'.calls = h.calls) : Sound h' := by
  obtain ⟨h₁, h₂, h₃, h₄, h₅, h₆, h₇, h₈⟩ := hs
  constructor <;> simp only [hch, hcl, hca] <;> assumption

/-! ## Moves that touch the channels -/

theorem Sound.enqueue (hs : Sound h) (ht : h.calls[t]? = some (e, p)) (hp : p ≠ .answered queuedOutcome)
    (hi : h.channels[i]? = some c) (hroom : c.waiting.length < c.capacity) :
    Sound ((h.putIn i t c).advance t e (.answered queuedOutcome)) := by
  have hfresh : ∀ (j : Nat) (c' : Channel), h.channels[j]? = some c' → t ∉ c'.taken :=
    fun _ _ hj => hs.not_taken ht hp hj
  have hlen : t < h.calls.length := lt_length_of_getElem? ht
  -- each channel after the move is channel `i` with the ticket added, or as it was
  have hch : ∀ (j : Nat) (c' : Channel),
      ((h.putIn i t c).advance t e (.answered queuedOutcome)).channels[j]? = some c' →
      (j = i ∧ c' = { c with waiting := c.waiting ++ [t], taken := c.taken ++ [t] }) ∨
        (j ≠ i ∧ h.channels[j]? = some c') := by
    intro j c' hj
    rw [advance_channels] at hj
    by_cases hji : j = i
    · subst hji
      rw [channels_putIn_self hi] at hj
      exact .inl ⟨rfl, (Option.some.inj hj).symm⟩
    · rw [channels_putIn_of_ne (Ne.symm hji)] at hj
      exact .inr ⟨hji, hj⟩
  have hcalls : ∀ t' : Nat, t' ≠ t →
      ((h.putIn i t c).advance t e (.answered queuedOutcome)).calls[t']? = h.calls[t']? := fun t' hne =>
    calls_advance_of_ne (Ne.symm hne)
  have hself : ((h.putIn i t c).advance t e (.answered queuedOutcome)).calls[t]? =
      some (e, .answered queuedOutcome) := calls_advance_self hlen
  constructor
  · intro j c' hj
    rcases hch j c' hj with ⟨-, rfl⟩ | ⟨-, hj⟩
    · simp [← hs.fifo i c hi]
    · exact hs.fifo j c' hj
  · intro j c' hj
    rcases hch j c' hj with ⟨-, rfl⟩ | ⟨-, hj⟩
    · simp only [List.length_append, List.length_singleton]
      omega
    · exact hs.bounded j c' hj
  · intro j c' hj
    rcases hch j c' hj with ⟨-, rfl⟩ | ⟨-, hj⟩
    · rw [List.nodup_append]
      refine ⟨hs.nodup i c hi, by simp, ?_⟩
      simp only [List.mem_singleton]
      rintro a ha b rfl rfl
      exact hfresh i c hi ha
    · exact hs.nodup j c' hj
  · intro j c' t' hj hmem
    by_cases htt : t' = t
    · exact ⟨e, htt ▸ hself⟩
    · rw [hcalls t' htt]
      rcases hch j c' hj with ⟨-, rfl⟩ | ⟨-, hj⟩
      · exact hs.queued i c t' hi (by simpa [htt] using hmem)
      · exact hs.queued j c' t' hj hmem
  · -- a ticket in two channels after the move was in both before: the new ticket is in no other
    have hbefore : ∀ (j : Nat) (c₁ : Channel) (t' : Nat),
        ((h.putIn i t c).advance t e (.answered queuedOutcome)).channels[j]? = some c₁ → t' ∈ c₁.taken →
        (t' = t ∧ j = i) ∨ ∃ c₀ : Channel, h.channels[j]? = some c₀ ∧ t' ∈ c₀.taken := by
      intro j c₁ t' hj hm
      rcases hch j c₁ hj with ⟨hji, rfl⟩ | ⟨-, hj⟩
      · rcases List.mem_append.1 hm with hm | hm
        · exact .inr ⟨c, hji ▸ hi, hm⟩
        · exact .inl ⟨List.mem_singleton.1 hm, hji⟩
      · exact .inr ⟨c₁, hj, hm⟩
    intro j k c₁ c₂ t' hj hk hm₁ hm₂
    rcases hbefore j c₁ t' hj hm₁ with ⟨rfl, rfl⟩ | ⟨c₀, hj₀, hm₀⟩ <;>
      rcases hbefore k c₂ t' hk hm₂ with ⟨hkt, rfl⟩ | ⟨c₀', hk₀, hm₀'⟩
    · rfl
    · exact absurd hm₀' (hfresh k c₀' hk₀)
    · exact absurd (hkt ▸ hm₀) (hfresh j c₀ hj₀)
    · exact hs.once j k c₀ c₀' t' hj₀ hk₀ hm₀ hm₀'
  · intro hclosed j c' hj
    rcases hch j c' hj with ⟨-, rfl⟩ | ⟨-, hj⟩
    · exact hs.unshut hclosed i c hi
    · exact hs.unshut hclosed j c' hj
  · intro t' e' i' ht'
    by_cases htt : t' = t
    · subst htt
      rw [hself] at ht'
      simp at ht'
    · rw [hcalls t' htt] at ht'
      exact hs.blockedOpen t' e' i' ht'
  · intro t' e'
    by_cases htt : t' = t
    · subst htt
      rw [hself]
      intro heq
      exact queued_ne_crash (Progress.answered.inj (Prod.mk.inj (Option.some.inj heq)).2)
    · rw [hcalls t' htt]
      exact hs.noCrash t' e'

/-- Replacing a channel by one with the same events put in and the same state,
whose worker handled a first part of them, keeps the invariant. -/
theorem Sound.setChannel (hs : Sound h) (hi : h.channels[i]? = some c) (htaken : c'.taken = c.taken)
    (hshut : c'.shut = c.shut) (hfifo : c'.handled ++ c'.waiting = c'.taken)
    (hbound : c'.waiting.length ≤ c'.capacity) :
    Sound { h with channels := h.channels.set i c' } := by
  have hch : ∀ (j : Nat) (c₁ : Channel), (h.channels.set i c')[j]? = some c₁ →
      (j = i ∧ c₁ = c') ∨ h.channels[j]? = some c₁ := by
    intro j c₁ hj
    by_cases hji : j = i
    · subst hji
      rw [List.getElem?_set_self (lt_length_of_getElem? hi)] at hj
      exact .inl ⟨rfl, (Option.some.inj hj).symm⟩
    · rw [List.getElem?_set_ne (Ne.symm hji)] at hj
      exact .inr hj
  -- what channel `i` now has, it had before
  have hold : ∀ (j : Nat) (c₁ : Channel), (h.channels.set i c')[j]? = some c₁ →
      ∃ c₀, h.channels[j]? = some c₀ ∧ c₁.taken = c₀.taken ∧ c₁.shut = c₀.shut := by
    intro j c₁ hj
    rcases hch j c₁ hj with ⟨rfl, rfl⟩ | hj
    · exact ⟨c, hi, htaken, hshut⟩
    · exact ⟨c₁, hj, rfl, rfl⟩
  constructor
  · intro j c₁ hj
    rcases hch j c₁ hj with ⟨-, rfl⟩ | hj
    · exact hfifo
    · exact hs.fifo j c₁ hj
  · intro j c₁ hj
    rcases hch j c₁ hj with ⟨-, rfl⟩ | hj
    · exact hbound
    · exact hs.bounded j c₁ hj
  · intro j c₁ hj
    obtain ⟨c₀, hj, htk, -⟩ := hold j c₁ hj
    exact htk ▸ hs.nodup j c₀ hj
  · intro j c₁ t' hj hmem
    obtain ⟨c₀, hj, htk, -⟩ := hold j c₁ hj
    exact hs.queued j c₀ t' hj (htk ▸ hmem)
  · intro j k c₁ c₂ t' hj hk hm₁ hm₂
    obtain ⟨c₀, hj, htk, -⟩ := hold j c₁ hj
    obtain ⟨c₀', hk, htk', -⟩ := hold k c₂ hk
    exact hs.once j k c₀ c₀' t' hj hk (htk ▸ hm₁) (htk' ▸ hm₂)
  · intro hclosed j c₁ hj
    obtain ⟨c₀, hj, -, hsh⟩ := hold j c₁ hj
    exact hsh ▸ hs.unshut hclosed j c₀ hj
  · exact hs.blockedOpen
  · exact hs.noCrash

theorem Sound.work (hs : Sound h) (hi : h.channels[i]? = some c) (hw : c.waiting = t :: rest) :
    Sound { h with channels := h.channels.set i { c with waiting := rest, handled := c.handled ++ [t] } } := by
  have hfifo := hs.fifo i c hi
  have hbound := hs.bounded i c hi
  rw [hw] at hfifo hbound
  refine hs.setChannel hi rfl rfl ?_ ?_
  · simpa using hfifo
  · simp at hbound ⊢
    omega

theorem Sound.register (hs : Sound h) (cmd : String) (cap : Nat) (blocking : Bool) (regs : List Registration) :
    Sound { h with channels := h.channels ++ [{ command := cmd, capacity := cap, blocking := blocking }],
                   registrations := regs } := by
  -- the new channel is empty and open, every other is as it was
  have hch : ∀ (j : Nat) (c₁ : Channel),
      (h.channels ++ [{ command := cmd, capacity := cap, blocking := blocking }])[j]? = some c₁ →
      h.channels[j]? = some c₁ ∨ c₁ = { command := cmd, capacity := cap, blocking := blocking } := by
    intro j c₁ hj
    rcases getElem?_snoc_eq_some hj with hj | hj
    · exact .inl hj
    · exact .inr hj.symm
  constructor
  · intro j c₁ hj
    rcases hch j c₁ hj with hj | rfl
    · exact hs.fifo j c₁ hj
    · rfl
  · intro j c₁ hj
    rcases hch j c₁ hj with hj | rfl
    · exact hs.bounded j c₁ hj
    · simp
  · intro j c₁ hj
    rcases hch j c₁ hj with hj | rfl
    · exact hs.nodup j c₁ hj
    · exact List.nodup_nil
  · intro j c₁ t' hj hmem
    rcases hch j c₁ hj with hj | rfl
    · exact hs.queued j c₁ t' hj hmem
    · simp at hmem
  · intro j k c₁ c₂ t' hj hk hm₁ hm₂
    rcases hch j c₁ hj with hj | rfl
    · rcases hch k c₂ hk with hk | rfl
      · exact hs.once j k c₁ c₂ t' hj hk hm₁ hm₂
      · simp at hm₂
    · simp at hm₁
  · intro hclosed j c₁ hj
    rcases hch j c₁ hj with hj | rfl
    · exact hs.unshut hclosed j c₁ hj
    · rfl
  · exact hs.blockedOpen
  · exact hs.noCrash

/-- `Close` closes every channel, once no dispatch holds the read lock. -/
theorem Sound.close (hs : Sound h) (hl : h.readLocked = false) :
    Sound { h with closed := true, channels := h.channels.map fun c : Channel => { c with shut := true },
                   closers := h.closers + 1 } := by
  have hch : ∀ (j : Nat) (c₁ : Channel), (h.channels.map fun c : Channel => { c with shut := true })[j]? = some c₁ →
      ∃ c₀ : Channel, h.channels[j]? = some c₀ ∧ c₁ = { c₀ with shut := true } := by
    intro j c₁ hj
    rw [List.getElem?_map] at hj
    obtain ⟨c₀, hc₀, rfl⟩ := Option.map_eq_some_iff.1 hj
    exact ⟨c₀, hc₀, rfl⟩
  constructor
  · intro j c₁ hj
    obtain ⟨c₀, hj₀, rfl⟩ := hch j c₁ hj
    exact hs.fifo j c₀ hj₀
  · intro j c₁ hj
    obtain ⟨c₀, hj₀, rfl⟩ := hch j c₁ hj
    exact hs.bounded j c₀ hj₀
  · intro j c₁ hj
    obtain ⟨c₀, hj₀, rfl⟩ := hch j c₁ hj
    exact hs.nodup j c₀ hj₀
  · intro j c₁ t' hj hmem
    obtain ⟨c₀, hj₀, rfl⟩ := hch j c₁ hj
    exact hs.queued j c₀ t' hj₀ hmem
  · intro j k c₁ c₂ t' hj hk hm₁ hm₂
    obtain ⟨c₀, hj₀, rfl⟩ := hch j c₁ hj
    obtain ⟨c₀', hk₀, rfl⟩ := hch k c₂ hk
    exact hs.once j k c₀ c₀' t' hj₀ hk₀ hm₁ hm₂
  · intro hclosed
    cases hclosed
  · intro t' e' i' ht'
    exact (not_blocked_of_readLocked hl ht').elim
  · exact hs.noCrash

/-! ## Every move keeps the invariant -/

theorem Sound.offerTo (hs : Sound h) (ht : h.calls[t]? = some (e, .offering i)) (hi : h.channels[i]? = some c) :
    Sound (h.offerTo t e i c) := by
  have hp : Progress.offering i ≠ .answered queuedOutcome := by simp
  unfold Hub.offerTo
  split
  · exact hs.advance ht hp (by simp [closedOutcome, closedChannelCrash]) (by simp)
  · rename_i hopen
    split
    · -- an open dispatcher has no closed channel
      rename_i hshut
      have := hs.unshut (by simpa using hopen) i c hi
      simp_all
    · split
      · rename_i hroom
        exact hs.enqueue ht hp hi hroom
      · split
        · exact hs.advance ht hp (by simp) (fun _ _ => by simpa using hopen)
        · exact hs.advance ht hp (by simp [queueFullOutcome, closedChannelCrash, Fault.plain]) (by simp)

theorem Sound.step (hs : Sound h) {s : HubStep} (hstep : h.step s = some h') : Sound h' := by
  cases s with
  | register cmd b o =>
    simp only [Hub.step] at hstep
    split at hstep
    · cases hstep
    · split at hstep <;> cases hstep
      · exact hs.register cmd o.buffer o.blocking _
      · exact hs.of_same rfl rfl rfl
  | dispatch e =>
    cases hstep
    exact hs.dispatch e
  | offer t =>
    simp only [Hub.step] at hstep
    split at hstep
    · rename_i e i ht
      obtain ⟨c, hi, rfl⟩ := Option.map_eq_some_iff.1 hstep
      exact hs.offerTo ht hi
    · rename_i e i ht
      split at hstep
      · rename_i c hi
        split at hstep
        · rename_i hroom
          cases hstep
          exact hs.enqueue ht (by simp) hi hroom
        · cases hstep
      · cases hstep
    · cases hstep
  | finish t =>
    simp only [Hub.step] at hstep
    split at hstep
    · rename_i e b ht
      cases hstep
      exact hs.advance ht (by simp) (by simpa using outcome_ne_crash b) (by simp)
    · cases hstep
  | work i =>
    simp only [Hub.step] at hstep
    split at hstep
    · rename_i c hi
      split at hstep
      · rename_i t rest hw
        cases hstep
        exact hs.work hi hw
      · cases hstep
    · cases hstep
  | close =>
    simp only [Hub.step] at hstep
    split at hstep
    · cases hstep
    · rename_i hl
      split at hstep
      · cases hstep
        exact hs
      · cases hstep
        exact hs.close (by simpa using hl)
  | closeReturn =>
    simp only [Hub.step] at hstep
    split at hstep
    · cases hstep
      exact hs.of_same rfl rfl rfl
    · cases hstep

theorem Sound.run {ss : List HubStep} (hs : Sound h) (hr : h.run ss = some h') : Sound h' := by
  induction ss generalizing h with
  | nil =>
    cases hr
    exact hs
  | cons s ss ih =>
    obtain ⟨h₁, hh₁, hr⟩ := Option.bind_eq_some_iff.1 hr
    exact ih (hs.step hh₁) hr

/-! ## What one move does to a dispatch -/

theorem offerTo_calls_of_ne (hne : t ≠ t') : (h.offerTo t e i c).calls[t']? = h.calls[t']? := by
  unfold Hub.offerTo
  -- every branch moves dispatch `t` on, after putting it in the channel at most
  split
  · exact calls_advance_of_ne hne
  · split
    · exact calls_advance_of_ne hne
    · split
      · rw [calls_advance_of_ne hne, putIn_calls]
      · split <;> exact calls_advance_of_ne hne

theorem answered_stays {o : Outcome} (ht : h.calls[t]? = some (e, .answered o)) {s : HubStep}
    (hstep : h.step s = some h') : h'.calls[t]? = some (e, .answered o) := by
  cases s with
  | register cmd b o' =>
    simp only [Hub.step] at hstep
    split at hstep
    · cases hstep
    · split at hstep <;> cases hstep <;> exact ht
  | dispatch e' =>
    cases hstep
    rw [List.getElem?_append_left (lt_length_of_getElem? ht)]
    exact ht
  | offer t' =>
    -- the dispatch that moves is another one: an answered dispatch does not offer
    have hne : t' ≠ t := by
      rintro rfl
      simp only [Hub.step, ht] at hstep
      cases hstep
    simp only [Hub.step] at hstep
    split at hstep
    · obtain ⟨c, -, rfl⟩ := Option.map_eq_some_iff.1 hstep
      rw [offerTo_calls_of_ne hne]
      exact ht
    · split at hstep
      · split at hstep
        · cases hstep
          rw [calls_advance_of_ne hne]
          exact ht
        · cases hstep
      · cases hstep
    · cases hstep
  | finish t' =>
    have hne : t' ≠ t := by
      rintro rfl
      simp only [Hub.step, ht] at hstep
      cases hstep
    simp only [Hub.step] at hstep
    split at hstep
    · cases hstep
      rw [calls_advance_of_ne hne]
      exact ht
    · cases hstep
  | work i =>
    simp only [Hub.step] at hstep
    split at hstep
    · split at hstep
      · cases hstep
        exact ht
      · cases hstep
    · cases hstep
  | close =>
    simp only [Hub.step] at hstep
    split at hstep
    · cases hstep
    · split at hstep <;> cases hstep <;> exact ht
  | closeReturn =>
    simp only [Hub.step] at hstep
    split at hstep
    · cases hstep
      exact ht
    · cases hstep

/-- A dispatch bound for a non-blocking channel of an open dispatcher is queued
when the channel has room and dropped as `queue full` when it has none. -/
theorem offer_nonblocking (hs : Sound h) (ht : h.calls[t]? = some (e, .offering i))
    (hi : h.channels[i]? = some c) (hnb : c.blocking = false) (hopen : h.closed = false) :
    h.step (.offer t) = some
      (if c.waiting.length < c.capacity then (h.putIn i t c).advance t e (.answered queuedOutcome)
       else h.advance t e (.answered (queueFullOutcome c.command))) := by
  have hshut := hs.unshut hopen i c hi
  simp [Hub.step, ht, hi, Hub.offerTo, hopen, hshut, hnb]

theorem offer_blocking_not_full (ht : h.calls[t]? = some (e, .offering i) ∨ h.calls[t]? = some (e, .blocked i))
    (hi : h.channels[i]? = some c) (hb : c.blocking = true) (hstep : h.step (.offer t) = some h')
    (cmd : String) : h'.calls[t]? ≠ some (e, .answered (queueFullOutcome cmd)) := by
  have hlen : t < h.calls.length := by rcases ht with ht | ht <;> exact lt_length_of_getElem? ht
  -- the dispatch is queued, answered `dispatcher closed` or `crash`, or waits: never `queue full`
  have hfull : ∀ o, o ≠ queueFullOutcome cmd → ∀ h₀ : Hub, h₀.calls.length = h.calls.length →
      (h₀.advance t e (.answered o)).calls[t]? ≠ some (e, .answered (queueFullOutcome cmd)) := by
    intro o ho h₀ hl₀ heq
    rw [calls_advance_self (hl₀ ▸ hlen)] at heq
    exact ho (Progress.answered.inj (Prod.mk.inj (Option.some.inj heq)).2)
  rcases ht with ht | ht
  · simp only [Hub.step, ht, hi, Option.map_some, Option.some.injEq] at hstep
    subst hstep
    unfold Hub.offerTo
    by_cases hc : h.closed = true
    · rw [if_pos hc]
      exact hfull _ (by simp [closedOutcome, queueFullOutcome, Fault.plain]) h rfl
    rw [if_neg hc]
    by_cases hsh : c.shut = true
    · rw [if_pos hsh]
      exact hfull _ (by simp [closedChannelCrash, queueFullOutcome, Fault.plain]) h rfl
    rw [if_neg hsh]
    by_cases hroom : c.waiting.length < c.capacity
    · rw [if_pos hroom]
      exact hfull _ (queueFull_ne_queued cmd).symm _ (by simp [Hub.putIn])
    -- no room: the blocking send waits
    rw [if_neg hroom, if_pos hb, calls_advance_self hlen]
    simp
  · simp only [Hub.step, ht, hi] at hstep
    split at hstep
    · cases hstep
      exact hfull _ (queueFull_ne_queued cmd).symm _ (by simp [Hub.putIn])
    · cases hstep

theorem dispatch_closed (hc : h.closed = true) (e : Event) :
    h.step (.dispatch e) = some { h with calls := h.calls ++ [(e, .answered closedOutcome)] } := by
  simp [Hub.step, Hub.route, hc]

theorem Sound.closeReturn_handled (hs : Sound h) (hstep : h.step .closeReturn = some h') :
    ∀ (i : Nat) (c : Channel), h'.channels[i]? = some c → c.handled = c.taken := by
  simp only [Hub.step] at hstep
  split at hstep
  · rename_i hdone
    cases hstep
    intro i c hi
    have hc : (c.shut && c.waiting.isEmpty) = true := List.all_eq_true.1 hdone.2 c (List.mem_of_getElem? hi)
    have hw : c.waiting = [] := (by simpa using hc : c.shut = true ∧ c.waiting = []).2
    simpa [hw] using hs.fifo i c hi
  · cases hstep

theorem Sound.close_again (hs : Sound h) (hc : h.closed = true) : h.step .close = some h := by
  -- a blocking send waits only while the dispatcher is open, so no dispatch holds the read lock
  have hl : h.readLocked = false := by
    rw [Hub.readLocked, List.any_eq_false]
    rintro ⟨e, p⟩ hmem hp
    cases p with
    | blocked i =>
      obtain ⟨t, ht⟩ := List.mem_iff_getElem?.1 hmem
      simp [hs.blockedOpen t e i ht] at hc
    | _ => simp [Progress.holdsReadLock] at hp
  simp [Hub.step, hl, hc]

end Hub

open Hub

/-- In every state any interleaving of registrations, dispatches, offers,
returns, worker moves and `Close` calls reaches from a fresh dispatcher: each
worker has handled, in order, a first part of its channel's events; no event is
put in twice and no channel overflows; only a `queued` answer puts one in; a
non-blocking channel takes an event exactly when it has room, a blocking one
never answers `queue full`; after `Close` a dispatch is answered `dispatcher
closed`, a `Close` returns once all was handled, and nothing is sent on a
closed channel. -/
theorem buffered_delivery {ss : List HubStep} {h : Hub} (hr : Hub.run {} ss = some h) :
    (∀ (i : Nat) (c : Channel), h.channels[i]? = some c →
      c.handled ++ c.waiting = c.taken ∧ c.taken.Nodup ∧ c.waiting.length ≤ c.capacity) ∧
    (∀ (i j : Nat) (c c' : Channel) (t : Nat), h.channels[i]? = some c → h.channels[j]? = some c' →
      t ∈ c.taken → t ∈ c'.taken → i = j) ∧
    (∀ (i : Nat) (c : Channel) (t : Nat), h.channels[i]? = some c → t ∈ c.taken →
      ∃ e, h.calls[t]? = some (e, .answered queuedOutcome)) ∧
    (∀ (t : Nat) (e : Event) (o : Outcome) (s : HubStep) (h' : Hub),
      h.calls[t]? = some (e, .answered o) → h.step s = some h' → h'.calls[t]? = some (e, .answered o)) ∧
    (∀ (t : Nat) (e : Event) (i : Nat) (c : Channel) (h' : Hub),
      h.calls[t]? = some (e, .offering i) → h.channels[i]? = some c → c.blocking = false →
      h.closed = false → h.step (.offer t) = some h' →
      (h'.calls[t]? = some (e, .answered queuedOutcome) ↔ c.waiting.length < c.capacity) ∧
      (c.capacity ≤ c.waiting.length → h'.calls[t]? = some (e, .answered (queueFullOutcome c.command)))) ∧
    (∀ (t : Nat) (e : Event) (i : Nat) (c : Channel) (h' : Hub) (cmd : String),
      (h.calls[t]? = some (e, .offering i) ∨ h.calls[t]? = some (e, .blocked i)) →
      h.channels[i]? = some c → c.blocking = true → h.step (.offer t) = some h' →
      h'.calls[t]? ≠ some (e, .answered (queueFullOutcome cmd))) ∧
    (h.closed = true → ∀ e : Event,
      h.step (.dispatch e) = some { h with calls := h.calls ++ [(e, .answered closedOutcome)] }) ∧
    (∀ h' : Hub, h.step .closeReturn = some h' →
      ∀ (i : Nat) (c : Channel), h'.channels[i]? = some c → c.handled = c.taken) ∧
    (h.closed = true → h.step .close = some h) ∧
    (∀ (t : Nat) (e : Event), h.calls[t]? ≠ some (e, .answered closedChannelCrash)) := by
  have hs : Sound h := sound_empty.run hr
  refine ⟨fun i c hi => ⟨hs.fifo i c hi, hs.nodup i c hi, hs.bounded i c hi⟩, hs.once, hs.queued,
    fun t e o s h' ht hstep => answered_stays ht hstep, ?_,
    fun t e i c h' cmd ht hi hb hstep => offer_blocking_not_full ht hi hb hstep cmd,
    fun hc e => dispatch_closed hc e, fun h' hstep => hs.closeReturn_handled hstep,
    hs.close_again, hs.noCrash⟩
  intro t e i c h' ht hi hnb hopen hstep
  rw [offer_nonblocking hs ht hi hnb hopen, Option.some.injEq] at hstep
  subst hstep
  have hlen : t < h.calls.length := lt_length_of_getElem? ht
  split
  · rename_i hroom
    have hq : ((h.putIn i t c).advance t e (.answered queuedOutcome)).calls[t]? =
        some (e, .answered queuedOutcome) := calls_advance_self (by simpa using hlen)
    exact ⟨⟨fun _ => hroom, fun _ => hq⟩, fun hle => absurd hroom (by omega)⟩
  · rename_i hfull
    rw [calls_advance_self hlen]
    refine ⟨⟨fun heq => absurd (Progress.answered.inj (Prod.mk.inj (Option.some.inj heq)).2)
      (queueFull_ne_queued _), fun hroom => absurd hroom hfull⟩, fun _ => rfl⟩

/-- A channel of room one: the first event is queued and handled, the second,
offered while the first still waits, is dropped, and `Close` returns with the
first handled. -/
def roomForOne : List HubStep :=
  [.register "cmd" .echo { buffer := 1 }, .dispatch ⟨"cmd", ["a"]⟩, .dispatch ⟨"cmd", ["b"]⟩,
    .offer 0, .offer 1, .work 0, .close, .closeReturn]

theorem buffered_delivery_roomForOne :
    ∃ h, Hub.run {} roomForOne = some h ∧
      ∀ (i : Nat) (c : Channel), h.channels[i]? = some c →
        c.handled ++ c.waiting = c.taken ∧ c.taken.Nodup ∧ c.waiting.length ≤ c.capacity :=
  ⟨_, rfl, (@buffered_delivery roomForOne _ rfl).1⟩

end Dispatch
end JuryCaptions
