import JuryCaptions.Serving.Run
import JuryCaptions.Proofs.Caption.NoLostUpdate
/-!
The invariant of a server's session, kept by every step of its goroutines.

Each event of `SessionRun.step` has its own lemma (`step_accept`, ...,
`step_upload`) saying which stand it moves from and which state it reaches, so
proofs about runs never unfold `SessionRun.step`. `Inv` ties together the
loop's own invariant, the recorded messages being those sent, the calls the
main goroutine's stand allows, and every caption in play being the timeline's.
-/

namespace JuryCaptions

namespace StreamLoop

open CaptionStream

/-- The caption a phase of the loop holds, read from the player. -/
def Phase.held : Phase → Option Caption
  | .readCaption _ _ _ c | .readPair _ _ _ c _ => some c
  | _ => none

@[simp] theorem held_readCaption (final : Bool) (cap foc : Nat) (c : Caption) :
    (Phase.readCaption final cap foc c).held = some c := rfl

@[simp] theorem held_readPair (final : Bool) (cap foc : Nat) (c : Caption) (f : SpeakerId) :
    (Phase.readPair final cap foc c f).held = some c := rfl

@[simp] theorem held_afterFlush (final : Bool) (cap foc : Nat) : (afterFlush final cap foc).held = none := by
  cases final <;> rfl

/-- A move of the loop itself: the sources stay, the caption held is none, the
one held or the player's, and at most the held pair goes out, to client and
recorder alike, within the writer's limit. -/
structure LoopMoved (limit : Nat) (s s' : State) : Prop where
  caption : s'.caption = s.caption
  tracker : s'.tracker = s.tracker
  held : s'.phase.held = none ∨ s'.phase.held = s.phase.held ∨ s'.phase.held = s.caption
  out : (s'.delivered = s.delivered ∧ s'.recorded = s.recorded ∧ s'.sentPairs = s.sentPairs) ∨
    ∃ c f failure, s.phase.held = some c ∧
      writeOutcome limit failure (CaptionMessage.ofCaption c f) = none ∧
      s'.delivered = s.delivered ++ [CaptionMessage.ofCaption c f] ∧
      s'.recorded = s.recorded ++ [CaptionMessage.ofCaption c f] ∧
      s'.sentPairs = s.sentPairs ++ [(c, f)]

section

variable {limit : Nat} {s s' : State}

theorem step_focus (id : SpeakerId) :
    step limit s (.focus id) = some { s with
      tracker := (s.tracker.set id).1,
      focusChanges := if (s.tracker.set id).2 then s.focusChanges + 1 else s.focusChanges } := rfl

theorem loopMoved_phase {p : Phase}
    (hp : p.held = none ∨ p.held = s.phase.held ∨ p.held = s.caption) :
    LoopMoved limit s { s with phase := p } :=
  ⟨rfl, rfl, hp, .inl ⟨rfl, rfl, rfl⟩⟩

theorem loopMoved_of_step {e : Event} (he : e.byLoop = true) (h : step limit s e = some s') :
    LoopMoved limit s s' := by
  cases e with
  | emit c => cases he
  | focus id => cases he
  | cancel => cases he
  | send failure =>
    cases hp : s.phase with
    | readPair final cap foc c f =>
      rw [step_send failure hp] at h
      obtain rfl := Option.some.inj h
      split
      · exact loopMoved_phase (.inl (held_afterFlush ..))
      · split
        · exact loopMoved_phase (.inl rfl)
        · next hw =>
          exact ⟨rfl, rfl, .inl (held_afterFlush ..), .inr ⟨c, f, failure, by simp [hp], hw,
            rfl, rfl, rfl⟩⟩
    | _ => simp [step, hp] at h
  | _ =>
    simp only [step] at h
    repeat' split at h
    all_goals first
      | (obtain rfl := Option.some.inj h
         first
           | exact loopMoved_phase (.inl rfl)
           | exact loopMoved_phase (by simp_all))
      | cases h

end

end StreamLoop

namespace SessionRun

open StreamLoop (LoopMoved)

namespace Call

/-- Whether a call records something of the run. -/
def isRecord : Call → Bool
  | .recordCaption _ | .recordFocus _ _ => true
  | .startSession _ _ | .endSession _ | .upload _ => false

/-- The message a call records, if it records one. -/
def message? : Call → Option CaptionMessage
  | .recordCaption m => some m
  | .startSession _ _ | .recordFocus _ _ | .endSession _ | .upload _ => none

/-- The juror whose focus a call records, if it records one. -/
def juror? : Call → Option SpeakerId
  | .recordFocus id _ => some id
  | .startSession _ _ | .recordCaption _ | .endSession _ | .upload _ => none

end Call

/-- Whether the player may still emit. -/
def Timeline.isPlaying : Timeline → Bool
  | .playing _ => true
  | _ => false

/-- Whether the source and its tracker may still move. -/
def Feed.isActive : Feed → Bool
  | .feeding | .notifying _ => true
  | _ => false

/-- The change the tracker took and has not told its listener of yet. -/
def Feed.pending : Feed → List SpeakerId
  | .notifying id => [id]
  | _ => []

/-- The juror an event reports to the tracker, if it reports one. -/
def Event.reported : Event → Option SpeakerId
  | .focus id => some id
  | _ => none

/-- No member of the run can record anything. -/
def Quiet (s : State) : Prop := s.timeline.isPlaying = false ∧ s.feed.isActive = false

/-- The calls of a session the backend started: the start, then records only. -/
def Started (cfg : Config) (calls : List Call) : Prop :=
  ∃ records, calls = .startSession cfg.session none :: records ∧ ∀ c ∈ records, c.isRecord = true

/-- The calls of a session once the server returned: none; a start the backend
refused; or the start, the records of the run, the end and the upload if there
was one. -/
def Finished (cfg : Config) (calls : List Call) : Prop :=
  calls = [] ∨ (∃ e, calls = [.startSession cfg.session (some e)]) ∨
  ∃ records a path, calls = .startSession cfg.session none :: records ++ .endSession a :: uploads cfg path ∧
    ∀ c ∈ records, c.isRecord = true

/-- What each stand of the main goroutine knows of the calls and the members:
no call before the start, records only while the run goes on, and no member
left to record anything once it is over. -/
def MainFacts (cfg : Config) (s : State) : Prop :=
  match s.main with
  | .accepting | .preparing | .awaitingOperator | .starting => s.calls = [] ∧ Quiet s
  | .releasing => s.calls = [.startSession cfg.session none] ∧ Quiet s
  | .running => Started cfg s.calls
  | .ending => Started cfg s.calls ∧ Quiet s
  | .uploading =>
    (∃ records a, s.calls = .startSession cfg.session none :: records ++ [.endSession a] ∧
      ∀ c ∈ records, c.isRecord = true) ∧ Quiet s
  | .returned _ => Finished cfg s.calls ∧ Quiet s

/-- What every reachable state satisfies. -/
structure Inv (cfg : Config) (s : State) : Prop where
  loop : StreamLoop.Inv s.loop
  /-- The recorder calls are the messages the loop handed over. -/
  recorded : s.calls.filterMap Call.message? = s.loop.recorded
  main : MainFacts cfg s
  /-- Every caption in play is one of the timeline's. -/
  current : ∀ c, s.loop.caption = some c → c ∈ cfg.captions
  held : ∀ c, s.loop.phase.held = some c → c ∈ cfg.captions
  rest : ∀ rest, s.timeline = .playing rest → ∀ c ∈ rest, c ∈ cfg.captions
  /-- Every pair sent carries a caption of the timeline, and its frame was within the limit. -/
  sent : ∀ p ∈ s.loop.sentPairs,
    p.1 ∈ cfg.captions ∧ (CaptionMessage.ofCaption p.1 p.2).body.length ≤ cfg.frameLimit

section

variable {cfg : Config} {s s' : State}

theorem Inv.init : Inv cfg {} where
  loop := StreamLoop.Inv.init
  recorded := rfl
  main := ⟨rfl, rfl, rfl⟩
  current _ h := by cases h
  held _ h := by cases h
  rest _ h := by cases h
  sent _ h := by cases h

theorem Inv.running_of_active (h : Inv cfg s) (ha : s.timeline.isPlaying = true ∨ s.feed.isActive = true) :
    s.main = .running := by
  have hm := h.main
  unfold MainFacts at hm
  cases hmain : s.main <;> rw [hmain] at hm
  all_goals
    obtain ⟨-, hq⟩ := hm
    rcases ha with ha | ha <;> simp_all [Quiet]

/-- The stands of the main goroutine at which no call has been made. -/
def Main.early : Main → Bool
  | .accepting | .preparing | .awaitingOperator | .starting | .returned _ => true
  | _ => false

@[simp] theorem early_afterPrepare : (afterPrepare cfg).early = true := by
  unfold afterPrepare
  split <;> rfl

@[simp] theorem early_afterAccept : (afterAccept cfg).early = true := by
  unfold afterAccept
  split
  · rfl
  · exact early_afterPrepare

theorem mainFacts_early (hm : s.main.early = true) (hc : s.calls = []) (hq : Quiet s) :
    MainFacts cfg s := by
  unfold MainFacts
  cases hmain : s.main <;> rw [hmain] at hm <;> first | exact ⟨hc, hq⟩ | exact ⟨.inl hc, hq⟩ | cases hm

/-- Before the start there are no calls and no member moves. -/
theorem MainFacts.before_start (h : MainFacts cfg s) (hm : s.main.early = true)
    (hr : ∀ f, s.main ≠ .returned f) : s.calls = [] ∧ Quiet s := by
  unfold MainFacts at h
  cases hmain : s.main <;> rw [hmain] at hm h
  all_goals first | exact h | exact absurd hmain (hr _) | cases hm

theorem MainFacts.of_members (hmain : s'.main = s.main) (hcalls : s'.calls = s.calls)
    (hq : Quiet s → Quiet s') (h : MainFacts cfg s) : MainFacts cfg s' := by
  unfold MainFacts at h ⊢
  rw [hmain, hcalls]
  cases hm : s.main <;> rw [hm] at h
  all_goals first | exact h | exact ⟨h.1, hq h.2⟩

theorem Inv.with_main {m : Main} (h : Inv cfg s) (hm : MainFacts cfg { s with main := m }) :
    Inv cfg { s with main := m } :=
  ⟨h.loop, h.recorded, hm, h.current, h.held, h.rest, h.sent⟩

/-- An early stand of the main goroutine that moves on to another one. -/
theorem Inv.early {m : Main} (h : Inv cfg s) (hs : s.main.early = true) (hr : ∀ f, s.main ≠ .returned f)
    (hm : m.early = true) : Inv cfg { s with main := m } :=
  have hb := h.main.before_start hs hr
  h.with_main (mainFacts_early hm hb.1 hb.2)

/-! ## What a step does to the calls -/

@[simp] theorem filterMap_message_map_recordCaption (ms : List CaptionMessage) :
    (ms.map Call.recordCaption).filterMap Call.message? = ms := by
  induction ms with
  | nil => rfl
  | cons m ms ih => simp [Call.message?, ih]

@[simp] theorem filterMap_message_uploads (path : String) :
    (uploads cfg path).filterMap Call.message? = [] := by
  unfold uploads
  split <;> rfl

theorem recordedBy_eq {l l' : StreamLoop.State} {δ : List CaptionMessage}
    (h : l'.recorded = l.recorded ++ δ) : recordedBy l l' = δ.map .recordCaption := by
  simp [recordedBy, h]

theorem moveLoop_eq {e : StreamLoop.Event} (h : moveLoop cfg s e = some s') :
    ∃ l, StreamLoop.step cfg.frameLimit s.loop e = some l ∧
      s' = { s with loop := l, calls := s.calls ++ recordedBy s.loop l } := by
  simp only [moveLoop, Option.map_eq_some_iff] at h
  obtain ⟨l, hl, rfl⟩ := h
  exact ⟨l, hl, rfl⟩

/-! ## What each step does -/

section

-- The proofs below all unfold `step`; its equations are made here once, before they run.
attribute [local simp] SessionRun.step

theorem step_accept {f : Option Fault} (h : step cfg s (.accept f) = some s') :
    s.main = .accepting ∧
      ((f = none ∧ s' = { s with main := afterAccept cfg }) ∨ ∃ g, s' = { s with main := .returned (some g) }) := by
  simp only [SessionRun.step] at h
  split at h
  · next hm => exact ⟨hm, .inr ⟨_, (Option.some.inj h).symm⟩⟩
  · next hm => exact ⟨hm, .inl ⟨rfl, (Option.some.inj h).symm⟩⟩
  · cases h

theorem step_prepare {f : Option Fault} (h : step cfg s (.prepare f) = some s') :
    s.main = .preparing ∧
      ((f = none ∧ s' = { s with main := afterPrepare cfg }) ∨ ∃ g, s' = { s with main := .returned (some g) }) := by
  simp only [SessionRun.step] at h
  split at h
  · next hm => exact ⟨hm, .inr ⟨_, (Option.some.inj h).symm⟩⟩
  · next hm => exact ⟨hm, .inl ⟨rfl, (Option.some.inj h).symm⟩⟩
  · cases h

/-- A line from the operator: one that is too long ends the wait, an empty one
starts the session, any other is answered with a new prompt. -/
theorem step_operatorLine {line : String} (h : step cfg s (.operatorLine line) = some s') :
    s.main = .awaitingOperator ∧
      (s' = s ∨
       (Operator.isBlank line = true ∧ line.utf8ByteSize < Operator.lineLimit ∧
         s' = { s with main := .starting }) ∨
       ∃ g, s' = { s with main := .returned (some g) }) := by
  simp only [SessionRun.step] at h
  split at h
  · next hm =>
    refine ⟨hm, ?_⟩
    split at h
    · exact .inr (.inr ⟨_, (Option.some.inj h).symm⟩)
    · next hl =>
      split at h
      · next hb => exact .inr (.inl ⟨hb, by omega, (Option.some.inj h).symm⟩)
      · exact .inl (Option.some.inj h).symm
  · cases h

theorem step_operatorEnds {r : Option Fault} (h : step cfg s (.operatorEnds r) = some s') :
    s.main = .awaitingOperator ∧ ∃ g, s' = { s with main := .returned (some g) } := by
  simp only [SessionRun.step] at h
  split at h
  · next hm => exact ⟨hm, _, (Option.some.inj h).symm⟩
  · cases h

theorem step_operatorCancelled (h : step cfg s .operatorCancelled = some s') :
    s.main = .awaitingOperator ∧ ∃ g, s' = { s with main := .returned (some g) } := by
  simp only [SessionRun.step] at h
  split at h
  · next hm =>
    split at h
    · exact ⟨hm, _, (Option.some.inj h).symm⟩
    · cases h
  · cases h

theorem step_startSession {r : Option String} (h : step cfg s (.startSession r) = some s') :
    s.main = .starting ∧
      ((r = none ∧ s' = afterStart cfg { s with calls := s.calls ++ [.startSession cfg.session none] }) ∨
       ∃ e g, r = some e ∧
         s' = { s with calls := s.calls ++ [.startSession cfg.session (some e)], main := .returned g }) := by
  simp only [SessionRun.step] at h
  split at h
  · next hm =>
    refine ⟨hm, ?_⟩
    cases r with
    | some e => exact .inr ⟨e, _, rfl, (Option.some.inj h).symm⟩
    | none => exact .inl ⟨rfl, (Option.some.inj h).symm⟩
  · cases h

theorem step_release {f : Option Fault} (h : step cfg s (.release f) = some s') :
    s.main = .releasing ∧ ((∃ g, s' = { s with main := .ending, failure := some g }) ∨ s' = s.startMembers cfg) := by
  simp only [SessionRun.step] at h
  split at h
  · next hm => exact ⟨hm, .inl ⟨_, (Option.some.inj h).symm⟩⟩
  · next hm => exact ⟨hm, .inr (Option.some.inj h).symm⟩
  · cases h

theorem step_emit (h : step cfg s .emit = some s') :
    ∃ c rest, s.timeline = .playing (c :: rest) ∧
      s' = { s with loop := { s.loop with caption := some c, captionChanges := s.loop.captionChanges + 1 },
                    timeline := .playing rest } := by
  simp only [SessionRun.step] at h
  split at h
  · next c rest ht =>
    obtain ⟨s₁, hmove, rfl⟩ := Option.map_eq_some_iff.mp h
    obtain ⟨l, hl, rfl⟩ := moveLoop_eq hmove
    obtain rfl := Option.some.inj hl
    exact ⟨c, rest, ht, by simp [recordedBy]⟩
  · cases h

theorem step_timelineEnds (h : step cfg s .timelineEnds = some s') :
    s.timeline = .playing [] ∧ s' = { s.cancel with timeline := .finished } := by
  simp only [SessionRun.step] at h
  split at h
  · next ht => exact ⟨ht, (Option.some.inj h).symm⟩
  · cases h

theorem step_playerCancelled (h : step cfg s .playerCancelled = some s') :
    s.timeline.isPlaying = true ∧ s' = { s with timeline := .finished } := by
  simp only [SessionRun.step] at h
  split at h
  · next ht =>
    split at h
    · exact ⟨by rw [ht]; rfl, (Option.some.inj h).symm⟩
    · cases h
  · cases h

theorem step_focus {id : SpeakerId} (h : step cfg s (.focus id) = some s') :
    s.feed = .feeding ∧
      s' = { s with
        loop := { s.loop with
          tracker := (s.loop.tracker.set id).1,
          focusChanges := if (s.loop.tracker.set id).2 then s.loop.focusChanges + 1 else s.loop.focusChanges },
        feed := if (s.loop.tracker.set id).2 then .notifying id else .feeding } := by
  simp only [SessionRun.step] at h
  split at h
  · next hfd =>
    obtain ⟨s₁, hmove, rfl⟩ := Option.map_eq_some_iff.mp h
    obtain ⟨l, hl, rfl⟩ := moveLoop_eq hmove
    rw [StreamLoop.step_focus] at hl
    obtain rfl := Option.some.inj hl
    exact ⟨hfd, by simp [recordedBy]⟩
  · cases h

theorem step_notify (h : step cfg s .notify = some s') :
    ∃ id, s.feed = .notifying id ∧
      s' = { s with feed := .feeding, calls := s.calls ++ [.recordFocus id cfg.session.focusSource] } := by
  simp only [SessionRun.step] at h
  split at h
  · next id hfd => exact ⟨id, hfd, (Option.some.inj h).symm⟩
  · cases h

theorem step_sourceEnds {f : Option Fault} (h : step cfg s (.sourceEnds f) = some s') :
    s.feed = .feeding ∧ (s' = { s with feed := .finished } ∨ ∃ g, s' = { s.fail g with feed := .finished }) := by
  simp only [SessionRun.step] at h
  split at h
  · next hfd => exact ⟨hfd, .inr ⟨_, (Option.some.inj h).symm⟩⟩
  · next hfd => exact ⟨hfd, .inl (Option.some.inj h).symm⟩
  · cases h

theorem step_loop {e : StreamLoop.Event} (h : step cfg s (.loop e) = some s') :
    s.main = .running ∧ e.byLoop = true ∧ ∃ l, StreamLoop.step cfg.frameLimit s.loop e = some l ∧
      (s' = { s with loop := l, calls := s.calls ++ recordedBy s.loop l } ∨
       ∃ g, s' = State.fail { s with loop := l, calls := s.calls ++ recordedBy s.loop l } g) := by
  simp only [SessionRun.step] at h
  split at h
  · next hm =>
    split at h
    · next he =>
      obtain ⟨s₁, hmove, rfl⟩ := Option.map_eq_some_iff.mp h
      obtain ⟨l, hl, rfl⟩ := moveLoop_eq hmove
      refine ⟨hm, he, l, hl, ?_⟩
      split
      · exact .inr ⟨_, rfl⟩
      · exact .inl rfl
    · cases h
  · cases h

theorem step_disconnect (h : step cfg s .disconnect = some s') :
    s' = { s.cancel with watching := false } := by
  simp only [SessionRun.step] at h
  split at h
  · exact (Option.some.inj h).symm
  · cases h

theorem step_watcherCancelled (h : step cfg s .watcherCancelled = some s') :
    s' = { s with watching := false } := by
  simp only [SessionRun.step] at h
  split at h
  · exact (Option.some.inj h).symm
  · cases h

theorem step_join (h : step cfg s .join = some s') :
    s.main = .running ∧ s.membersDone = true ∧ s' = { s with main := .ending } := by
  simp only [SessionRun.step] at h
  split at h
  · next hm =>
    split at h
    · next hd => exact ⟨hm, hd, (Option.some.inj h).symm⟩
    · cases h
  · cases h

theorem step_endSession {a : Option String} (h : step cfg s (.endSession a) = some s') :
    s.main = .ending ∧
      s' = { s with main := .uploading, calls := s.calls ++ [.endSession a],
                    failure := endedFailure s.failure a } := by
  simp only [SessionRun.step] at h
  split at h
  · next hm => exact ⟨hm, (Option.some.inj h).symm⟩
  · cases h

theorem step_upload {path : String} (h : step cfg s (.upload path) = some s') :
    s.main = .uploading ∧ s' = { s with main := .returned s.failure, calls := s.calls ++ uploads cfg path } := by
  simp only [SessionRun.step] at h
  split at h
  · next hm => exact ⟨hm, (Option.some.inj h).symm⟩
  · cases h

end

theorem Started.append_records {calls more : List Call} (h : Started cfg calls)
    (hm : ∀ c ∈ more, c.isRecord = true) : Started cfg (calls ++ more) := by
  obtain ⟨records, rfl, hr⟩ := h
  refine ⟨records ++ more, rfl, fun c hc => ?_⟩
  rcases List.mem_append.mp hc with hc | hc
  · exact hr c hc
  · exact hm c hc

theorem isRecord_of_mem_map_recordCaption {ms : List CaptionMessage} {c : Call}
    (h : c ∈ ms.map .recordCaption) : c.isRecord = true := by
  obtain ⟨m, -, rfl⟩ := List.mem_map.mp h
  rfl

theorem length_body_le_of_writeOutcome {limit : Nat} {failure : Option String} {m : CaptionMessage}
    (h : CaptionStream.writeOutcome limit failure m = none) : m.body.length ≤ limit := by
  unfold CaptionStream.writeOutcome at h
  unfold CaptionMessage.body
  split at h
  · cases h
  · cases h
  · next hw =>
    unfold Frame.encode at hw
    split at hw
    · cases hw
    · omega

/-! ## Steps that cancel or stop members -/

theorem Inv.cancel (h : Inv cfg s) : Inv cfg s.cancel where
  loop := h.loop.step (by rfl : StreamLoop.step cfg.frameLimit s.loop .cancel = some s.cancel.loop)
  recorded := h.recorded
  main := h.main.of_members (by rfl) (by rfl) (by exact id)
  current := h.current
  held := h.held
  rest := h.rest
  sent := h.sent

theorem Inv.fail (h : Inv cfg s) (f : Fault) : Inv cfg (s.fail f) :=
  have hc := h.cancel
  ⟨hc.loop, hc.recorded, hc.main.of_members (by rfl) (by rfl) (by exact id), hc.current, hc.held,
    hc.rest, hc.sent⟩

theorem Inv.timeline_finished (h : Inv cfg s) : Inv cfg { s with timeline := .finished } :=
  ⟨h.loop, h.recorded, h.main.of_members (by rfl) (by rfl) (by exact fun hq => ⟨rfl, hq.2⟩),
    h.current, h.held, (fun _ hr => by cases hr), h.sent⟩

theorem Inv.feed_finished (h : Inv cfg s) : Inv cfg { s with feed := .finished } :=
  ⟨h.loop, h.recorded, h.main.of_members (by rfl) (by rfl) (by exact fun hq => ⟨hq.1, rfl⟩),
    h.current, h.held, h.rest, h.sent⟩

theorem Inv.stop_watching (h : Inv cfg s) : Inv cfg { s with watching := false } :=
  ⟨h.loop, h.recorded, h.main.of_members (by rfl) (by rfl) (by exact id), h.current, h.held, h.rest,
    h.sent⟩

/-! ## Steps of the members -/

theorem mainFacts_running (hm : s.main = .running) : MainFacts cfg s ↔ Started cfg s.calls := by
  unfold MainFacts
  rw [hm]

theorem Inv.source_move {e : StreamLoop.Event} {l : StreamLoop.State} {tl : Timeline} {fd : Feed}
    (h : Inv cfg s) (hrun : s.main = .running)
    (hstep : StreamLoop.step cfg.frameLimit s.loop e = some l) (hm : StreamLoop.SourcesMoved s.loop l)
    (hcur : ∀ c, l.caption = some c → c ∈ cfg.captions)
    (hrest : ∀ rest, tl = .playing rest → ∀ c ∈ rest, c ∈ cfg.captions) :
    Inv cfg { s with loop := l, timeline := tl, feed := fd } := by
  refine ⟨h.loop.step hstep, ?_, ?_, hcur, ?_, hrest, ?_⟩
  · rw [hm.recorded]
    exact h.recorded
  · exact (mainFacts_running (by exact hrun)).mpr ((mainFacts_running hrun).mp h.main)
  · rw [hm.phase]
    exact h.held
  · rw [hm.sentPairs]
    exact h.sent

/-- The player emits a caption of the timeline. -/
theorem Inv.emit {c : Caption} {rest : List Caption} (h : Inv cfg s) (ht : s.timeline = .playing (c :: rest)) :
    Inv cfg { s with loop := { s.loop with caption := some c, captionChanges := s.loop.captionChanges + 1 },
                     timeline := .playing rest } := by
  have hrest := h.rest _ ht
  refine h.source_move (e := .emit c) (h.running_of_active (.inl (by rw [ht]; rfl))) rfl
    (StreamLoop.sourcesMoved_emit c)
    (fun c' hc' => ?_) (fun r hr c' hc' => ?_)
  · obtain rfl := Option.some.inj hc'
    exact hrest c List.mem_cons_self
  · obtain rfl := Timeline.playing.inj hr
    exact hrest c' (List.mem_cons_of_mem c hc')

/-- The tracker takes a juror the source reports. -/
theorem Inv.focus {id : SpeakerId} (h : Inv cfg s) (hfd : s.feed = .feeding) :
    Inv cfg { s with
      loop := { s.loop with
        tracker := (s.loop.tracker.set id).1,
        focusChanges := if (s.loop.tracker.set id).2 then s.loop.focusChanges + 1 else s.loop.focusChanges },
      feed := if (s.loop.tracker.set id).2 then .notifying id else .feeding } :=
  h.source_move (h.running_of_active (.inr (by rw [hfd]; rfl))) (StreamLoop.step_focus id)
    (StreamLoop.sourcesMoved_focus id) h.current h.rest

theorem Inv.loop_move {e : StreamLoop.Event} {l : StreamLoop.State} (h : Inv cfg s)
    (hrun : s.main = .running) (he : e.byLoop = true)
    (hstep : StreamLoop.step cfg.frameLimit s.loop e = some l) :
    Inv cfg { s with loop := l, calls := s.calls ++ recordedBy s.loop l } := by
  have hm := StreamLoop.loopMoved_of_step he hstep
  have hstarted := (mainFacts_running hrun).mp h.main
  have hheld : ∀ c, l.phase.held = some c → c ∈ cfg.captions := by
    intro c hc
    rcases hm.held with h1 | h1 | h1 <;> rw [h1] at hc
    · cases hc
    · exact h.held c hc
    · exact h.current c hc
  have hcur : ∀ c, l.caption = some c → c ∈ cfg.captions := by
    rw [hm.caption]
    exact h.current
  rcases hm.out with ⟨-, hr, hp⟩ | ⟨c, f, failure, hc, hw, -, hr, hp⟩
  · -- nothing went out
    have hnone : recordedBy s.loop l = [] := by
      rw [recordedBy_eq (show l.recorded = s.loop.recorded ++ [] by simp [hr])]
      rfl
    refine ⟨h.loop.step hstep, ?_, ?_, hcur, hheld, h.rest, ?_⟩
    · rw [hnone, List.append_nil, hr]
      exact h.recorded
    · refine (mainFacts_running (by exact hrun)).mpr ?_
      rw [hnone, List.append_nil]
      exact hstarted
    · rw [hp]
      exact h.sent
  · -- the pair the loop held went out, within the writer's limit
    have hone := recordedBy_eq hr
    refine ⟨h.loop.step hstep, ?_, ?_, hcur, hheld, h.rest, ?_⟩
    · rw [hone, List.filterMap_append, h.recorded, hr, filterMap_message_map_recordCaption]
    · refine (mainFacts_running (by exact hrun)).mpr (hstarted.append_records fun c hc => ?_)
      rw [hone] at hc
      exact isRecord_of_mem_map_recordCaption hc
    · intro p hp'
      rw [hp] at hp'
      rcases List.mem_append.mp hp' with hp' | hp'
      · exact h.sent p hp'
      · obtain rfl := List.mem_singleton.mp hp'
        exact ⟨h.held c hc, length_body_le_of_writeOutcome hw⟩

theorem Inv.notify {id : SpeakerId} (h : Inv cfg s) (hfd : s.feed = .notifying id) :
    Inv cfg { s with feed := .feeding, calls := s.calls ++ [.recordFocus id cfg.session.focusSource] } := by
  have hrun := h.running_of_active (.inr (by rw [hfd]; rfl))
  refine ⟨h.loop, ?_, ?_, h.current, h.held, h.rest, h.sent⟩
  · rw [List.filterMap_append, List.filterMap_cons_none rfl, List.filterMap_nil, List.append_nil]
    exact h.recorded
  · exact (mainFacts_running (by exact hrun)).mpr
      (((mainFacts_running hrun).mp h.main).append_records fun c hc => by
        rw [List.mem_singleton.mp hc]
        rfl)

/-! ## Steps of the main goroutine -/

theorem Inv.start_refused {e : String} {f : Option Fault} (h : Inv cfg s) (hm : s.main = .starting) :
    Inv cfg { s with calls := s.calls ++ [.startSession cfg.session (some e)], main := .returned f } := by
  obtain ⟨hc, hq⟩ := h.main.before_start (by rw [hm]; rfl) (by rw [hm]; nofun)
  have hrec : s.loop.recorded = [] := by rw [← h.recorded, hc]; rfl
  refine ⟨h.loop, ?_, ⟨.inr (.inl ⟨e, by rw [hc]; rfl⟩), hq⟩, h.current, h.held, h.rest, h.sent⟩
  rw [hc, hrec]
  rfl

theorem Inv.start_taken (h : Inv cfg s) (hm : s.main = .starting) :
    Inv cfg (afterStart cfg { s with calls := s.calls ++ [.startSession cfg.session none] }) := by
  obtain ⟨hc, hq⟩ := h.main.before_start (by rw [hm]; rfl) (by rw [hm]; nofun)
  have hrec : s.loop.recorded = [] := by rw [← h.recorded, hc]; rfl
  have hcalls : s.calls ++ [.startSession cfg.session none] = [.startSession cfg.session none] := by
    rw [hc]; rfl
  unfold afterStart
  split
  · refine ⟨h.loop, ?_, ⟨hcalls, hq⟩, h.current, h.held, h.rest, h.sent⟩
    rw [hcalls, hrec]
    rfl
  · refine ⟨h.loop, ?_, ⟨[], hcalls, nofun⟩, h.current, h.held, fun _ hr c hc => ?_, h.sent⟩
    · show List.filterMap Call.message? (s.calls ++ [Call.startSession cfg.session none]) = s.loop.recorded
      rw [hcalls, hrec]
      rfl
    · obtain rfl := Timeline.playing.inj hr
      exact hc

theorem Inv.release_failed {f : Fault} (h : Inv cfg s) (hm : s.main = .releasing) :
    Inv cfg { s with main := .ending, failure := some f } := by
  have hf := h.main
  unfold MainFacts at hf
  rw [hm] at hf
  exact ⟨h.loop, h.recorded, ⟨⟨[], hf.1, nofun⟩, hf.2⟩, h.current, h.held, h.rest, h.sent⟩

theorem Inv.release_done (h : Inv cfg s) (hm : s.main = .releasing) : Inv cfg (s.startMembers cfg) := by
  have hf := h.main
  unfold MainFacts at hf
  rw [hm] at hf
  refine ⟨h.loop, h.recorded, ⟨[], hf.1, nofun⟩, h.current, h.held, fun _ hr c hc => ?_, h.sent⟩
  obtain rfl := Timeline.playing.inj hr
  exact hc

/-- Every member returned: the run is over. -/
theorem Inv.join (h : Inv cfg s) (hm : s.main = .running) (hd : s.membersDone = true) :
    Inv cfg { s with main := .ending } := by
  have hq : Quiet s := by
    unfold State.membersDone at hd
    split at hd
    · next ht hf _ => exact ⟨by rw [ht]; rfl, by rw [hf]; rfl⟩
    · cases hd
  exact h.with_main ⟨(mainFacts_running hm).mp h.main, hq⟩

theorem Inv.end_session {a : Option String} {f : Option Fault} (h : Inv cfg s) (hm : s.main = .ending) :
    Inv cfg { s with main := .uploading, calls := s.calls ++ [.endSession a], failure := f } := by
  have hf := h.main
  unfold MainFacts at hf
  rw [hm] at hf
  obtain ⟨⟨records, hc, hr⟩, hq⟩ := hf
  refine ⟨h.loop, ?_, ⟨⟨records, a, by rw [hc], hr⟩, hq⟩, h.current, h.held, h.rest, h.sent⟩
  rw [List.filterMap_append, List.filterMap_cons_none rfl, List.filterMap_nil, List.append_nil]
  exact h.recorded

/-- The upload, if any, and the server returns. -/
theorem Inv.upload {path : String} {f : Option Fault} (h : Inv cfg s) (hm : s.main = .uploading) :
    Inv cfg { s with main := .returned f, calls := s.calls ++ uploads cfg path } := by
  have hf := h.main
  unfold MainFacts at hf
  rw [hm] at hf
  obtain ⟨⟨records, a, hc, hr⟩, hq⟩ := hf
  refine ⟨h.loop, ?_, ⟨.inr (.inr ⟨records, a, path, by rw [hc]; simp, hr⟩), hq⟩, h.current, h.held,
    h.rest, h.sent⟩
  rw [List.filterMap_append, filterMap_message_uploads, List.append_nil]
  exact h.recorded

/-! ## Every step and every run -/

/-- Every step keeps the invariant. -/
theorem Inv.step (h : Inv cfg s) {e : Event} (hstep : step cfg s e = some s') : Inv cfg s' := by
  have early : ∀ {m : Main}, s.main = m → m.early = true → (∀ f, m ≠ .returned f) →
      ∀ {m' : Main}, m'.early = true → Inv cfg { s with main := m' } := by
    intro m hm he hr m' he'
    subst hm
    exact h.early he hr he'
  cases e with
  | cancel =>
    obtain rfl := Option.some.inj hstep
    exact h.cancel
  | accept failure =>
    obtain ⟨hm, ⟨-, rfl⟩ | ⟨g, rfl⟩⟩ := step_accept hstep
    · exact early hm rfl nofun early_afterAccept
    · exact early hm rfl nofun rfl
  | prepare failure =>
    obtain ⟨hm, ⟨-, rfl⟩ | ⟨g, rfl⟩⟩ := step_prepare hstep
    · exact early hm rfl nofun early_afterPrepare
    · exact early hm rfl nofun rfl
  | operatorLine line =>
    obtain ⟨hm, rfl | ⟨-, -, rfl⟩ | ⟨g, rfl⟩⟩ := step_operatorLine hstep
    · exact h
    · exact early hm rfl nofun rfl
    · exact early hm rfl nofun rfl
  | operatorEnds readFailure =>
    obtain ⟨hm, g, rfl⟩ := step_operatorEnds hstep
    exact early hm rfl nofun rfl
  | operatorCancelled =>
    obtain ⟨hm, g, rfl⟩ := step_operatorCancelled hstep
    exact early hm rfl nofun rfl
  | startSession failure =>
    obtain ⟨hm, ⟨-, rfl⟩ | ⟨e, g, -, rfl⟩⟩ := step_startSession hstep
    · exact h.start_taken hm
    · exact h.start_refused hm
  | release failure =>
    obtain ⟨hm, ⟨g, rfl⟩ | rfl⟩ := step_release hstep
    · exact h.release_failed hm
    · exact h.release_done hm
  | emit =>
    obtain ⟨c, rest, ht, rfl⟩ := step_emit hstep
    exact h.emit ht
  | timelineEnds =>
    obtain ⟨-, rfl⟩ := step_timelineEnds hstep
    exact h.cancel.timeline_finished
  | playerCancelled =>
    obtain ⟨-, rfl⟩ := step_playerCancelled hstep
    exact h.timeline_finished
  | focus id =>
    obtain ⟨hfd, rfl⟩ := step_focus hstep
    exact h.focus hfd
  | notify =>
    obtain ⟨id, hfd, rfl⟩ := step_notify hstep
    exact h.notify hfd
  | sourceEnds failure =>
    obtain ⟨-, rfl | ⟨g, rfl⟩⟩ := step_sourceEnds hstep
    · exact h.feed_finished
    · exact (h.fail g).feed_finished
  | loop e =>
    obtain ⟨hm, he, l, hl, rfl | ⟨g, rfl⟩⟩ := step_loop hstep
    · exact h.loop_move hm he hl
    · exact (h.loop_move hm he hl).fail g
  | disconnect =>
    obtain rfl := step_disconnect hstep
    exact h.cancel.stop_watching
  | watcherCancelled =>
    obtain rfl := step_watcherCancelled hstep
    exact h.stop_watching
  | join =>
    obtain ⟨hm, hd, rfl⟩ := step_join hstep
    exact h.join hm hd
  | endSession failure =>
    obtain ⟨hm, rfl⟩ := step_endSession hstep
    exact h.end_session hm
  | upload path =>
    obtain ⟨hm, rfl⟩ := step_upload hstep
    exact h.upload hm

/-- Every run from a state that satisfies the invariant ends in one that does. -/
theorem Inv.run (h : Inv cfg s) {events : List Event} (hrun : run cfg s events = some s') : Inv cfg s' := by
  induction events generalizing s with
  | nil =>
    obtain rfl := Option.some.inj hrun
    exact h
  | cons e events ih =>
    simp only [SessionRun.run] at hrun
    obtain ⟨t, hstep, hrest⟩ := Option.bind_eq_some_iff.mp hrun
    exact ih (h.step hstep) hrest

end

end SessionRun

end JuryCaptions
