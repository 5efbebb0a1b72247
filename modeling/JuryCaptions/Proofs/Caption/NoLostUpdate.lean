import JuryCaptions.Caption.Loop
import Mathlib.Data.List.Chain
/-!
No update of the caption stream is lost.

The loop takes both change channels before it reads the caption and focus, so a
later change shows in the flush or closes a channel and the loop flushes again.
`Inv` records this per phase (`PhaseFacts`); `Inv.step` and `Inv.run` keep it.
A blocked loop need not hold a pair equal to the current one: a delay that is
not a number never equals itself, and `0` equals `-0` (`waiting_not_flushed_both`).
-/

namespace JuryCaptions

/-- The pair comparison the stream makes, field by field, delays as doubles. -/
def samePair (p q : Caption × SpeakerId) : Bool := p.1.same q.1 && p.2 == q.2

namespace CaptionStream

/-- How the writer fares with a message: the failure it meets, if any. The
frame limit is checked first, then the writer may fail. -/
def writeOutcome (limit : Nat) (failure : Option String) (m : CaptionMessage) : Option Fault :=
  match Frame.encode limit (Utf8.encode (Json.compact m.toJson)), failure with
  | .error e, _ => some e
  | .ok _, some text => some (.plain ("write frame: " ++ text))
  | .ok _, none => none

/-- The failure a send ends with, named by the caption it carried. -/
def sendFailure (c : Caption) (e : Fault) : Fault :=
  e.context ("send caption " ++ toString c.messageId ++ "/" ++ toString c.chunkId)

theorem isLast_eq (s : CaptionStream) (c : Caption) (f : SpeakerId) :
    s.isLast c f = match s.last with
      | some p => samePair p (c, f)
      | none => false := by
  unfold isLast samePair
  rcases s.last with _ | ⟨c', f'⟩ <;> rfl

theorem pass_some (s : CaptionStream) (c : Caption) (f : SpeakerId) (limit : Nat)
    (failure : Option String) :
    s.pass (some c) f limit failure =
      if s.isLast c f then (s, .idle)
      else match writeOutcome limit failure (CaptionMessage.ofCaption c f) with
        | some e => (s, .failed (sendFailure c e))
        | none => ({ last := some (c, f), count := s.count + 1 },
            .sent (CaptionMessage.ofCaption c f) (Json.compact (CaptionMessage.ofCaption c f).toJson)) := by
  unfold pass writeOutcome sendFailure
  by_cases h : s.isLast c f
  · simp [h]
  · simp only [h, if_false, Bool.false_eq_true]
    cases he : Frame.encode limit (Utf8.encode (Json.compact (CaptionMessage.ofCaption c f).toJson)) <;>
      cases failure <;> simp

end CaptionStream

namespace Focus.Tracker

theorem set_cases (t : Tracker) (id : SpeakerId) :
    t.set id = (t, false) ∨ t.set id = ({ current := id, seen := true }, true) := by
  unfold set
  split
  · exact .inl rfl
  · exact .inr rfl

end Focus.Tracker

namespace StreamLoop

open CaptionStream

section

variable {limit : Nat} {s s' : State}

/-! ## What one step does -/

theorem step_send {final : Bool} {cap foc : Nat} {c : Caption} {f : SpeakerId}
    (failure : Option String) (h : s.phase = .readPair final cap foc c f) :
    step limit s (.send failure) = some
      (if s.stream.isLast c f then { s with phase := afterFlush final cap foc }
       else match writeOutcome limit failure (CaptionMessage.ofCaption c f) with
         | some e => { s with phase := .returned (some (sendFailure c e)) }
         | none =>
           { s with stream := { last := some (c, f), count := s.stream.count + 1 },
                    phase := afterFlush final cap foc,
                    delivered := s.delivered ++ [CaptionMessage.ofCaption c f],
                    recorded := s.recorded ++ [CaptionMessage.ofCaption c f],
                    sentPairs := s.sentPairs ++ [(c, f)] }) := by
  simp only [step, h, pass_some]
  by_cases hl : s.stream.isLast c f
  · simp [hl]
  · simp only [hl, if_false, Bool.false_eq_true]
    cases writeOutcome limit failure (CaptionMessage.ofCaption c f) <;> rfl

theorem step_readCaption_none {final : Bool} {cap foc : Nat}
    (h : s.phase = .flushing final cap foc) (hc : s.caption = none) :
    step limit s .readCaption = some { s with phase := afterFlush final cap foc } := by
  simp [step, h, hc]

/-! ## The invariant -/

/-- The pair the loop would read now went out last, or compares equal to the
pair that went out last. -/
def Flushed (s : State) : Prop :=
  ∀ c, s.caption = some c →
    s.stream.last = some (c, s.tracker.current) ∨ s.stream.isLast c s.tracker.current = true

/-- What each phase of the loop knows of the sources. A value read after the
channels were taken is still current while the count it was taken at has not
moved. -/
def PhaseFacts (s : State) : Prop :=
  match s.phase with
  | .start => True
  | .tookCaption cap => cap ≤ s.captionChanges
  | .flushing _ cap foc => cap ≤ s.captionChanges ∧ foc ≤ s.focusChanges
  | .readCaption _ cap foc c =>
    cap ≤ s.captionChanges ∧ foc ≤ s.focusChanges ∧ s.caption.isSome ∧
      (s.captionChanges = cap → s.caption = some c)
  | .readPair _ cap foc c f =>
    cap ≤ s.captionChanges ∧ foc ≤ s.focusChanges ∧ s.caption.isSome ∧
      (s.captionChanges = cap → s.caption = some c) ∧ (s.focusChanges = foc → s.tracker.current = f)
  | .waiting cap foc =>
    cap ≤ s.captionChanges ∧ foc ≤ s.focusChanges ∧
      (s.captionChanges = cap → s.focusChanges = foc → Flushed s)
  | .returned _ => True

/-- What every reachable state of the loop satisfies. -/
structure Inv (s : State) : Prop where
  count : s.stream.count = s.sentPairs.length
  delivered : s.delivered = s.sentPairs.map fun p => CaptionMessage.ofCaption p.1 p.2
  recorded : s.recorded = s.delivered
  last : s.stream.last = s.sentPairs.getLast?
  noRepeat : s.sentPairs.IsChain fun p q => samePair p q = false
  quiet : s.caption = none → s.sentPairs = []
  phase : PhaseFacts s

theorem Inv.init : Inv ({} : State) :=
  ⟨rfl, rfl, rfl, rfl, .nil, fun _ => rfl, trivial⟩

/-! ## Steps of the sources -/

/-- A step of the sources alone: the loop and what went out stay as they were,
each change count only grows, and a source whose count stayed shows what it
showed. -/
structure SourcesMoved (s s' : State) : Prop where
  phase : s'.phase = s.phase
  stream : s'.stream = s.stream
  delivered : s'.delivered = s.delivered
  recorded : s'.recorded = s.recorded
  sentPairs : s'.sentPairs = s.sentPairs
  captionCount : s.captionChanges ≤ s'.captionChanges
  captionKept : s'.captionChanges = s.captionChanges → s'.caption = s.caption
  captionSome : s.caption.isSome → s'.caption.isSome
  captionNone : s'.caption = none → s.caption = none
  focusCount : s.focusChanges ≤ s'.focusChanges
  focusKept : s'.focusChanges = s.focusChanges → s'.tracker.current = s.tracker.current

theorem Flushed.of_sourcesMoved (m : SourcesMoved s s') (hc : s'.captionChanges = s.captionChanges)
    (hf : s'.focusChanges = s.focusChanges) (h : Flushed s) : Flushed s' := by
  intro c hsome
  rw [m.captionKept hc] at hsome
  rw [m.stream, m.focusKept hf]
  exact h c hsome

/-- The sources moving keeps what the loop knows: a value it read stays
current exactly as long as its source's count stays where it was. -/
theorem PhaseFacts.of_sourcesMoved (m : SourcesMoved s s') (h : PhaseFacts s) : PhaseFacts s' := by
  have hcap := m.captionCount
  have hfoc := m.focusCount
  unfold PhaseFacts at h ⊢
  rw [m.phase]
  cases hp : s.phase with
  | start => trivial
  | tookCaption cap =>
    rw [hp] at h
    exact Nat.le_trans h hcap
  | flushing final cap foc =>
    rw [hp] at h
    exact ⟨Nat.le_trans h.1 hcap, Nat.le_trans h.2 hfoc⟩
  | readCaption final cap foc c =>
    rw [hp] at h
    obtain ⟨hc, hf, hsome, hcur⟩ := h
    refine ⟨Nat.le_trans hc hcap, Nat.le_trans hf hfoc, m.captionSome hsome, fun heq => ?_⟩
    have hsame : s'.captionChanges = s.captionChanges := by omega
    rw [m.captionKept hsame]
    exact hcur (by omega)
  | readPair final cap foc c f =>
    rw [hp] at h
    obtain ⟨hc, hf, hsome, hcur, hfcur⟩ := h
    refine ⟨Nat.le_trans hc hcap, Nat.le_trans hf hfoc, m.captionSome hsome, fun heq => ?_, fun heq => ?_⟩
    · have hsame : s'.captionChanges = s.captionChanges := by omega
      rw [m.captionKept hsame]
      exact hcur (by omega)
    · have hsame : s'.focusChanges = s.focusChanges := by omega
      rw [m.focusKept hsame]
      exact hfcur (by omega)
  | waiting cap foc =>
    rw [hp] at h
    obtain ⟨hc, hf, hflushed⟩ := h
    refine ⟨Nat.le_trans hc hcap, Nat.le_trans hf hfoc, fun hc' hf' => ?_⟩
    have hcs : s'.captionChanges = s.captionChanges := by omega
    have hfs : s'.focusChanges = s.focusChanges := by omega
    exact Flushed.of_sourcesMoved m hcs hfs (hflushed (by omega) (by omega))
  | returned failure => trivial

theorem Inv.of_sourcesMoved (m : SourcesMoved s s') (h : Inv s) : Inv s' where
  count := by rw [m.stream, m.sentPairs]; exact h.count
  delivered := by rw [m.delivered, m.sentPairs]; exact h.delivered
  recorded := by rw [m.recorded, m.delivered]; exact h.recorded
  last := by rw [m.stream, m.sentPairs]; exact h.last
  noRepeat := by rw [m.sentPairs]; exact h.noRepeat
  quiet := fun hc => by rw [m.sentPairs]; exact h.quiet (m.captionNone hc)
  phase := h.phase.of_sourcesMoved m

theorem sourcesMoved_emit (c : Caption) :
    SourcesMoved s { s with caption := some c, captionChanges := s.captionChanges + 1 } where
  phase := rfl
  stream := rfl
  delivered := rfl
  recorded := rfl
  sentPairs := rfl
  captionCount := Nat.le_succ _
  captionKept := fun h => absurd h (Nat.succ_ne_self _)
  captionSome := fun _ => rfl
  captionNone := fun h => by simp at h
  focusCount := Nat.le_refl _
  focusKept := fun _ => rfl

theorem sourcesMoved_focus (juror : SpeakerId) :
    SourcesMoved s
      { s with
        tracker := (Focus.Tracker.set s.tracker juror).1
        focusChanges :=
          if (Focus.Tracker.set s.tracker juror).2 then s.focusChanges + 1 else s.focusChanges } := by
  rcases Focus.Tracker.set_cases s.tracker juror with h | h <;> rw [h] <;>
    exact ⟨rfl, rfl, rfl, rfl, rfl, Nat.le_refl _, fun _ => rfl, id, id,
      by simp, fun heq => by simp at heq ⊢⟩

theorem sourcesMoved_cancel : SourcesMoved s { s with cancelled := true } :=
  ⟨rfl, rfl, rfl, rfl, rfl, Nat.le_refl _, fun _ => rfl, id, id, Nat.le_refl _, fun _ => rfl⟩

/-! ## Steps of the loop -/

theorem Inv.with_phase (h : Inv s) {p : Phase} (hp : PhaseFacts { s with phase := p }) :
    Inv { s with phase := p } :=
  ⟨h.count, h.delivered, h.recorded, h.last, h.noRepeat, h.quiet, hp⟩

theorem phaseFacts_afterFlush {final : Bool} {cap foc : Nat} (hp : s.phase = afterFlush final cap foc)
    (hc : cap ≤ s.captionChanges) (hf : foc ≤ s.focusChanges)
    (hflushed : s.captionChanges = cap → s.focusChanges = foc → Flushed s) : PhaseFacts s := by
  unfold PhaseFacts
  cases final
  · rw [hp]
    exact ⟨hc, hf, hflushed⟩
  · rw [hp]
    trivial

/-- Sending a pair that differs from the last one keeps the invariant: the pair
becomes the last one, and it differs from the one before it. -/
theorem Inv.send {final : Bool} {cap foc : Nat} {c : Caption} {f : SpeakerId} (h : Inv s)
    (hp : s.phase = .readPair final cap foc c f) (hnew : s.stream.isLast c f = false) :
    Inv { s with stream := { last := some (c, f), count := s.stream.count + 1 },
                 phase := afterFlush final cap foc,
                 delivered := s.delivered ++ [CaptionMessage.ofCaption c f],
                 recorded := s.recorded ++ [CaptionMessage.ofCaption c f],
                 sentPairs := s.sentPairs ++ [(c, f)] } := by
  have facts := h.phase
  simp only [PhaseFacts, hp] at facts
  obtain ⟨hc, hf, hsome, hcur, hfcur⟩ := facts
  refine ⟨?_, ?_, ?_, ?_, ?_, ?_, ?_⟩
  · simp [h.count]
  · simp [h.delivered]
  · simp [h.recorded]
  · simp
  · -- the pair sent before this one is the stream's last pair, which differs
    refine h.noRepeat.append (.singleton _) fun x hx y hy => ?_
    rw [← h.last] at hx
    have hxy : y = (c, f) := by simpa using hy.symm
    rw [isLast_eq, Option.mem_def.mp hx] at hnew
    rw [hxy]
    exact hnew
  · intro hnone
    rw [hnone] at hsome
    cases hsome
  · refine phaseFacts_afterFlush rfl hc hf fun hc' hf' c' hc'' => .inl ?_
    have hcc : c' = c := by
      have := hcur hc'
      simp only at hc'' this
      rw [this] at hc''
      exact (Option.some.inj hc'').symm
    simp only [hcc, hfcur hf']

/-- Every step keeps the invariant. -/
theorem Inv.step (h : Inv s) {e : Event} (hstep : step limit s e = some s') : Inv s' := by
  cases e with
  | emit c =>
    obtain rfl := Option.some.inj hstep
    exact h.of_sourcesMoved (sourcesMoved_emit c)
  | focus juror =>
    obtain rfl := Option.some.inj hstep
    exact h.of_sourcesMoved (sourcesMoved_focus juror)
  | cancel =>
    obtain rfl := Option.some.inj hstep
    exact h.of_sourcesMoved sourcesMoved_cancel
  | takeCaption =>
    simp only [StreamLoop.step] at hstep
    split at hstep
    · obtain rfl := Option.some.inj hstep
      exact h.with_phase (Nat.le_refl _)
    · cases hstep
  | takeFocus =>
    simp only [StreamLoop.step] at hstep
    split at hstep
    · next cap hp =>
      obtain rfl := Option.some.inj hstep
      have facts := h.phase
      simp only [PhaseFacts, hp] at facts
      exact h.with_phase ⟨facts, Nat.le_refl _⟩
    · cases hstep
  | readCaption =>
    simp only [StreamLoop.step] at hstep
    split at hstep
    · next final cap foc hp =>
      have facts := h.phase
      simp only [PhaseFacts, hp] at facts
      split at hstep
      · next c hc =>
        obtain rfl := Option.some.inj hstep
        exact h.with_phase ⟨facts.1, facts.2, by simp [hc], fun _ => hc⟩
      · next hc =>
        obtain rfl := Option.some.inj hstep
        refine h.with_phase (phaseFacts_afterFlush rfl facts.1 facts.2 fun _ _ c' hc' => ?_)
        rw [hc] at hc'
        cases hc'
    · cases hstep
  | readFocus =>
    simp only [StreamLoop.step] at hstep
    split at hstep
    · next final cap foc c hp =>
      obtain rfl := Option.some.inj hstep
      have facts := h.phase
      simp only [PhaseFacts, hp] at facts
      exact h.with_phase ⟨facts.1, facts.2.1, facts.2.2.1, facts.2.2.2, fun _ => rfl⟩
    · cases hstep
  | send failure =>
    cases hp : s.phase with
    | readPair final cap foc c f =>
      rw [step_send failure hp] at hstep
      obtain rfl := Option.some.inj hstep
      have facts := h.phase
      simp only [PhaseFacts, hp] at facts
      obtain ⟨hc, hf, _, hcur, hfcur⟩ := facts
      by_cases hl : s.stream.isLast c f
      · -- the pair compares equal to the last one and nothing is sent
        rw [if_pos hl]
        refine h.with_phase (phaseFacts_afterFlush rfl hc hf fun hc' hf' c' hc'' => .inr ?_)
        have hcc : c' = c := by
          rw [hcur hc'] at hc''
          exact (Option.some.inj hc'').symm
        rw [hcc, hfcur hf']
        exact hl
      · rw [if_neg hl]
        cases writeOutcome limit failure (CaptionMessage.ofCaption c f) with
        | some e => exact h.with_phase trivial
        | none => exact h.send hp (by simpa using hl)
    | _ => simp [StreamLoop.step, hp] at hstep
  | wake =>
    simp only [StreamLoop.step] at hstep
    split at hstep
    · split at hstep
      · obtain rfl := Option.some.inj hstep
        exact h.with_phase trivial
      · cases hstep
    · cases hstep
  | exit =>
    simp only [StreamLoop.step] at hstep
    split at hstep
    · next cap foc hp =>
      split at hstep
      · obtain rfl := Option.some.inj hstep
        have facts := h.phase
        simp only [PhaseFacts, hp] at facts
        exact h.with_phase ⟨facts.1, facts.2.1⟩
      · cases hstep
    · cases hstep

/-- Every run from a state that satisfies the invariant ends in one that does. -/
theorem Inv.run (h : Inv s) {events : List Event} (hrun : run limit s events = some s') : Inv s' := by
  induction events generalizing s with
  | nil =>
    obtain rfl := Option.some.inj hrun
    exact h
  | cons e events ih =>
    simp only [StreamLoop.run] at hrun
    obtain ⟨t, hstep, hrest⟩ := Option.bind_eq_some_iff.mp hrun
    exact ih (h.step hstep) hrest

/-! ## Every interleaving -/

/-- **No update is lost, for every interleaving.**  In every reachable state:
nothing goes out before a caption exists; client and recorder got the same
messages, as many as were sent, no two in a row from equal pairs; a held pair is
the current one unless its source changed, and is sent exactly when it differs
from the last, a failed send changing nothing; and a loop blocked with both
channels open has sent the current pair or holds one equal to it. -/
theorem stream_noLostUpdate (limit : Nat) (events : List Event) (s : State)
    (hrun : run limit {} events = some s) :
    (s.caption = none → s.delivered = [] ∧ s.recorded = [] ∧ s.stream.count = 0) ∧
    (∀ final cap foc c f, s.phase = .readPair final cap foc c f → s.caption.isSome) ∧
    (s.stream.count = s.delivered.length ∧ s.recorded = s.delivered) ∧
    (s.delivered = s.sentPairs.map (fun p => CaptionMessage.ofCaption p.1 p.2) ∧
      s.sentPairs.IsChain (fun p q => samePair p q = false) ∧ s.stream.last = s.sentPairs.getLast?) ∧
    (∀ final cap foc, s.phase = .flushing final cap foc → s.caption = none →
      step limit s .readCaption = some { s with phase := afterFlush final cap foc }) ∧
    (∀ final cap foc c f failure, s.phase = .readPair final cap foc c f →
      (s.captionChanges = cap → s.caption = some c) ∧ (s.focusChanges = foc → s.tracker.current = f) ∧
      step limit s (.send failure) = some
        (if s.stream.isLast c f then { s with phase := afterFlush final cap foc }
         else match writeOutcome limit failure (CaptionMessage.ofCaption c f) with
           | some e => { s with phase := .returned (some (sendFailure c e)) }
           | none =>
             { s with stream := { last := some (c, f), count := s.stream.count + 1 },
                      phase := afterFlush final cap foc,
                      delivered := s.delivered ++ [CaptionMessage.ofCaption c f],
                      recorded := s.recorded ++ [CaptionMessage.ofCaption c f],
                      sentPairs := s.sentPairs ++ [(c, f)] })) ∧
    (∀ cap foc c, s.phase = .waiting cap foc → s.captionChanges = cap → s.focusChanges = foc →
      s.caption = some c →
      s.stream.last = some (c, s.tracker.current) ∨ s.stream.isLast c s.tracker.current = true) := by
  have h := Inv.init.run hrun
  have hcount : s.stream.count = s.delivered.length := by rw [h.count, h.delivered, List.length_map]
  refine ⟨fun hc => ?_, fun final cap foc c f hp => ?_, ⟨hcount, h.recorded⟩,
    ⟨h.delivered, h.noRepeat, h.last⟩, fun final cap foc hp hc => step_readCaption_none hp hc,
    fun final cap foc c f failure hp => ?_, fun cap foc c hp hc hf hsome => ?_⟩
  · have hnone := h.quiet hc
    have hdel : s.delivered = [] := by rw [h.delivered, hnone, List.map_nil]
    exact ⟨hdel, h.recorded.trans hdel, by rw [hcount, hdel, List.length_nil]⟩
  · have facts := h.phase
    simp only [PhaseFacts, hp] at facts
    exact facts.2.2.1
  · have facts := h.phase
    simp only [PhaseFacts, hp] at facts
    exact ⟨facts.2.2.2.1, facts.2.2.2.2, step_send failure hp⟩
  · have facts := h.phase
    simp only [PhaseFacts, hp] at facts
    exact facts.2.2 hc hf c hsome

/-- A caption due at once. -/
def firstCaption : Caption := { text := "a", speaker := "juror-a" }

/-- The loop's first flush after the caption arrives, with a writer that works. -/
def firstFlush : List Event :=
  [.emit firstCaption, .takeCaption, .takeFocus, .readCaption, .readFocus, .send none]

theorem stream_noLostUpdate_firstFlush :
    ∃ s, run 1000 {} firstFlush = some s ∧ s.stream.count = s.delivered.length ∧
      s.recorded = s.delivered :=
  ⟨_, rfl, (stream_noLostUpdate 1000 firstFlush _ rfl).2.2.1⟩

/-! ## What a blocked loop does not promise -/

/-- A caption whose delay is not a number. -/
def nanCaption : Caption :=
  { text := "x", speaker := "juror-a", delay := Float.ofBits 0x7FF8000000000000 }

/-- Two captions that differ only in the sign of a zero delay. -/
def zeroCaption : Caption := { text := "x", speaker := "juror-a", delay := 0.0 }

def negZeroCaption : Caption := { text := "x", speaker := "juror-a", delay := -0.0 }

/-- The first flush after a caption whose delay is not a number. -/
def nanFlush : List Event :=
  [.emit nanCaption, .takeCaption, .takeFocus, .readCaption, .readFocus, .send none]

/-- A flush after a caption at `0`, then one after the same caption at `-0`. -/
def zeroFlushes : List Event :=
  [.emit zeroCaption, .takeCaption, .takeFocus, .readCaption, .readFocus, .send none,
   .emit negZeroCaption, .wake, .takeCaption, .takeFocus, .readCaption, .readFocus, .send none]

/-- A blocked loop need not hold a last pair equal to, or being, the current
one: a delay that is not a number was just sent and is not equal to itself, and
a caption at `-0` equals the one at `0` sent before it and is not sent. -/
theorem waiting_not_flushed_both :
    (∃ s, run 1000 {} nanFlush = some s ∧ s.phase = .waiting 1 0 ∧ s.captionChanges = 1 ∧
      s.focusChanges = 0 ∧ s.caption = some nanCaption ∧
      s.stream.isLast nanCaption s.tracker.current = false) ∧
    (∃ s, run 1000 {} zeroFlushes = some s ∧ s.phase = .waiting 2 0 ∧ s.captionChanges = 2 ∧
      s.focusChanges = 0 ∧ s.caption = some negZeroCaption ∧
      s.stream.last ≠ some (negZeroCaption, s.tracker.current)) := by
  refine ⟨⟨_, rfl, rfl, rfl, rfl, rfl, by decide⟩, ⟨_, rfl, rfl, rfl, rfl, rfl, fun h => ?_⟩⟩
  -- the two delays have different bits
  have hd := congrArg (Option.map fun p => p.1.delay.toBits) h
  exact absurd hd (by decide)

end

end StreamLoop
end JuryCaptions
