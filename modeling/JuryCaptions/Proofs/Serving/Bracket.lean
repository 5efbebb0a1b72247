import JuryCaptions.Proofs.Serving.Invariant
import JuryCaptions.Proofs.Wire.Framing
import JuryCaptions.Proofs.Wire.Messages
import JuryCaptions.Proofs.Storage.Sessions
import Mathlib.Data.List.Destutter
/-!
The session bracket: what every run of the server's goroutines has done by the
time it reaches a state.

Beside `Inv`, a run keeps a history `Hist`: what a start waited for, and the
jurors the focus source reported, each change heard once by the recorder
(`Focus.Tracker.heard_feed_eq_destutter`). From them follow the order of the
recorder's calls (`Bracketed`), one end exactly when started, and with the
memory backend an export of what a client decodes.
-/

namespace JuryCaptions

namespace Focus.Tracker

theorem cons_heard_feed_seen (a : SpeakerId) (ids : List SpeakerId) :
    a :: (feed { current := a, seen := true } ids).2 = ids.destutter' (· ≠ ·) a := by
  induction ids generalizing a with
  | nil => rfl
  | cons b ids ih =>
    by_cases hab : a = b
    · subst hab
      simp [feed, set, ih]
    · have hne : (a == b) = false := by simpa using hab
      have hpos : (b :: ids).destutter' (· ≠ ·) a = a :: ids.destutter' (· ≠ ·) b :=
        List.destutter'_cons_pos ids hab
      simp only [feed, set, Bool.true_and, hne, Bool.false_eq_true, if_false, if_true, hpos, ih b]

/-- The changes a fresh tracker passes on are the jurors fed to it with each
run of repeats cut to one: the first juror always counts as a change. -/
theorem heard_feed_eq_destutter (ids : List SpeakerId) :
    (feed {} ids).2 = ids.destutter (· ≠ ·) := by
  cases ids with
  | nil => rfl
  | cons b ids =>
    simp only [feed, set, Bool.false_and, Bool.false_eq_true, if_false, if_true]
    rw [cons_heard_feed_seen, List.destutter_cons']

theorem feed_concat (t : Tracker) (ids : List SpeakerId) (b : SpeakerId) :
    feed t (ids ++ [b]) =
      (((feed t ids).1.set b).1, (feed t ids).2 ++ if ((feed t ids).1.set b).2 then [b] else []) := by
  induction ids generalizing t with
  | nil => cases h : (t.set b).2 <;> simp [feed, h]
  | cons a ids ih => cases h : (t.set a).2 <;> simp [feed, h, ih]

end Focus.Tracker

namespace SessionRun

section

variable {cfg : Config} {s s' : State}

/-! ## What the events so far account for -/

/-- The jurors the focus source reported in some events. -/
def reported (events : List Event) : List SpeakerId := events.filterMap Event.reported

/-- What the start needs of the events before it: the glasses accepted, the
playback prepared when there is one, and an empty operator line read when the
server waits for an operator and has an input to read. -/
def Ready (cfg : Config) (events : List Event) : Prop :=
  .accept none ∈ events ∧ (cfg.playback = true → .prepare none ∈ events) ∧
  (cfg.waitForOperator = true → cfg.operator = true →
    ∃ line, Operator.isBlank line = true ∧ line.utf8ByteSize < Operator.lineLimit ∧
      .operatorLine line ∈ events)

/-- What the events so far show at each stand on the way to the start. -/
def StartFacts (cfg : Config) (events : List Event) : Main → Prop
  | .preparing => .accept none ∈ events
  | .awaitingOperator => .accept none ∈ events ∧ (cfg.playback = true → .prepare none ∈ events)
  | .starting => Ready cfg events
  | _ => True

/-- What a state owes to the events that led to it: how far the main goroutine
got, and the focus changes the tracker took, each recorded or about to be. -/
structure Hist (cfg : Config) (events : List Event) (s : State) : Prop where
  start : StartFacts cfg events s.main
  tracker : s.loop.tracker = (Focus.Tracker.feed {} (reported events)).1
  heard : s.calls.filterMap Call.juror? ++ s.feed.pending = (Focus.Tracker.feed {} (reported events)).2

theorem Hist.init : Hist cfg [] {} := ⟨trivial, rfl, rfl⟩

theorem StartFacts.append {events more : List Event} {m : Main} (h : StartFacts cfg events m) :
    StartFacts cfg (events ++ more) m := by
  have mem : ∀ {e : Event}, e ∈ events → e ∈ events ++ more := fun he => List.mem_append_left more he
  cases m with
  | preparing => exact mem h
  | awaitingOperator => exact ⟨mem h.1, fun hp => mem (h.2 hp)⟩
  | starting =>
    obtain ⟨ha, hp, ho⟩ := h
    refine ⟨mem ha, fun h' => mem (hp h'), fun hw ho' => ?_⟩
    obtain ⟨line, hb, hl, hm⟩ := ho hw ho'
    exact ⟨line, hb, hl, mem hm⟩
  | _ => trivial

@[simp] theorem reported_append_of_none {events : List Event} {e : Event} (he : e.reported = none) :
    reported (events ++ [e]) = reported events := by
  simp [reported, List.filterMap_append, he]

/-- A step that reports no juror, keeps the tracker and neither records nor
takes a focus change keeps the history, once the stand it reaches is accounted for. -/
theorem Hist.keep {events : List Event} {e : Event} (h : Hist cfg events s) (he : e.reported = none)
    (hm : StartFacts cfg (events ++ [e]) s'.main) (ht : s'.loop.tracker = s.loop.tracker)
    (hh : s'.calls.filterMap Call.juror? ++ s'.feed.pending =
      s.calls.filterMap Call.juror? ++ s.feed.pending) : Hist cfg (events ++ [e]) s' := by
  refine ⟨hm, ?_, ?_⟩
  · rw [ht, reported_append_of_none he]
    exact h.tracker
  · rw [hh, reported_append_of_none he]
    exact h.heard

theorem startFacts_afterPrepare {events : List Event} (ha : .accept none ∈ events)
    (hp : cfg.playback = true → .prepare none ∈ events) :
    StartFacts cfg events (afterPrepare cfg) := by
  unfold afterPrepare
  split
  · exact ⟨ha, hp⟩
  · next hw =>
    refine ⟨ha, hp, fun hw' ho => absurd ?_ hw⟩
    simp [hw', ho]

theorem startFacts_afterAccept {events : List Event} :
    StartFacts cfg (events ++ [.accept none]) (afterAccept cfg) := by
  have ha : .accept none ∈ events ++ [.accept none] := List.mem_append_right _ List.mem_cons_self
  unfold afterAccept
  split
  · exact ha
  · next hp => exact startFacts_afterPrepare ha fun h => absurd h hp

theorem filterMap_juror_recordedBy (l l' : StreamLoop.State) :
    (recordedBy l l').filterMap Call.juror? = [] := by
  unfold recordedBy
  induction l'.recorded.drop l.recorded.length with
  | nil => rfl
  | cons m ms ih => exact ih

@[simp] theorem filterMap_juror_uploads (path : String) : (uploads cfg path).filterMap Call.juror? = [] := by
  unfold uploads
  split <;> rfl

theorem filterMap_juror_append {calls more : List Call} (h : ∀ c ∈ more, c.juror? = none) :
    (calls ++ more).filterMap Call.juror? = calls.filterMap Call.juror? := by
  rw [List.filterMap_append, List.filterMap_eq_nil_iff.mpr h, List.append_nil]

theorem filterMap_juror_recordedBy_append (calls : List Call) (l l' : StreamLoop.State) :
    (calls ++ recordedBy l l').filterMap Call.juror? = calls.filterMap Call.juror? := by
  rw [List.filterMap_append, filterMap_juror_recordedBy, List.append_nil]

theorem pending_of_not_active {fd : Feed} (h : fd.isActive = false) : fd.pending = [] := by
  cases fd with
  | notifying id => cases h
  | _ => rfl

/-- Every step keeps the history, with the step added to the events. -/
theorem Hist.step {events : List Event} (h : Hist cfg events s) (hi : Inv cfg s) {e : Event}
    (hstep : step cfg s e = some s') : Hist cfg (events ++ [e]) s' := by
  cases e with
  | cancel =>
    obtain rfl := Option.some.inj hstep
    exact h.keep rfl h.start.append rfl rfl
  | accept failure =>
    obtain ⟨-, ⟨rfl, rfl⟩ | ⟨g, rfl⟩⟩ := step_accept hstep
    · exact h.keep rfl startFacts_afterAccept rfl rfl
    · exact h.keep rfl trivial rfl rfl
  | prepare failure =>
    obtain ⟨hm, ⟨rfl, rfl⟩ | ⟨g, rfl⟩⟩ := step_prepare hstep
    · have ha : .accept none ∈ events := by
        have := h.start
        rw [hm] at this
        exact this
      refine h.keep rfl (startFacts_afterPrepare (List.mem_append_left _ ha) fun _ => ?_) rfl rfl
      exact List.mem_append_right _ List.mem_cons_self
    · exact h.keep rfl trivial rfl rfl
  | operatorLine line =>
    obtain ⟨hm, rfl | ⟨hb, hl, rfl⟩ | ⟨g, rfl⟩⟩ := step_operatorLine hstep
    · exact h.keep rfl h.start.append rfl rfl
    · -- the empty line read is what the start was waiting for
      have hf := h.start
      rw [hm] at hf
      exact h.keep rfl ⟨List.mem_append_left _ hf.1, fun hp => List.mem_append_left _ (hf.2 hp),
        fun _ _ => ⟨line, hb, hl, List.mem_append_right _ List.mem_cons_self⟩⟩ rfl rfl
    · exact h.keep rfl trivial rfl rfl
  | operatorEnds readFailure =>
    obtain ⟨-, g, rfl⟩ := step_operatorEnds hstep
    exact h.keep rfl trivial rfl rfl
  | operatorCancelled =>
    obtain ⟨-, g, rfl⟩ := step_operatorCancelled hstep
    exact h.keep rfl trivial rfl rfl
  | startSession failure =>
    have hno : ∀ r, ∀ c ∈ [Call.startSession cfg.session r], c.juror? = none := by
      simp [Call.juror?]
    obtain ⟨hm, ⟨rfl, rfl⟩ | ⟨e, g, rfl, rfl⟩⟩ := step_startSession hstep
    · unfold afterStart
      split
      · exact h.keep rfl trivial rfl (by rw [filterMap_juror_append (hno none)])
      · -- the source starts feeding with no change taken
        have hq := (hi.main.before_start (by rw [hm]; rfl) (by rw [hm]; nofun)).2
        refine h.keep rfl trivial rfl ?_
        show (s.calls ++ _).filterMap Call.juror? ++ [] = _
        rw [filterMap_juror_append (hno none), pending_of_not_active hq.2]
    · exact h.keep rfl trivial rfl (by rw [filterMap_juror_append (hno _)])
  | release failure =>
    obtain ⟨hm, ⟨g, rfl⟩ | rfl⟩ := step_release hstep
    · exact h.keep rfl trivial rfl rfl
    · have hf := hi.main
      unfold MainFacts at hf
      rw [hm] at hf
      refine h.keep rfl trivial rfl ?_
      show s.calls.filterMap Call.juror? ++ [] = _
      rw [pending_of_not_active hf.2.2]
  | emit =>
    obtain ⟨c, rest, -, rfl⟩ := step_emit hstep
    exact h.keep rfl h.start.append rfl rfl
  | timelineEnds =>
    obtain ⟨-, rfl⟩ := step_timelineEnds hstep
    exact h.keep rfl h.start.append rfl rfl
  | playerCancelled =>
    obtain ⟨-, rfl⟩ := step_playerCancelled hstep
    exact h.keep rfl h.start.append rfl rfl
  | focus id =>
    obtain ⟨hfd, rfl⟩ := step_focus hstep
    -- the tracker takes the juror; a change waits for its listener
    have hrep : reported (events ++ [.focus id]) = reported events ++ [id] := by
      simp [reported, List.filterMap_append, Event.reported]
    have hpend : s.feed.pending = [] := by rw [hfd]; rfl
    refine ⟨h.start.append, ?_, ?_⟩
    · rw [hrep, Focus.Tracker.feed_concat, ← h.tracker]
    · rw [hrep, Focus.Tracker.feed_concat, ← h.tracker, ← h.heard, hpend]
      cases (s.loop.tracker.set id).2 <;> simp [Feed.pending]
  | notify =>
    obtain ⟨id, hfd, rfl⟩ := step_notify hstep
    refine h.keep rfl h.start.append rfl ?_
    rw [hfd]
    simp [Call.juror?, Feed.pending]
  | sourceEnds failure =>
    obtain ⟨hfd, rfl | ⟨g, rfl⟩⟩ := step_sourceEnds hstep
    · exact h.keep rfl h.start.append rfl (by rw [hfd]; rfl)
    · exact h.keep rfl h.start.append rfl (by rw [hfd]; rfl)
  | loop e =>
    obtain ⟨-, he, l, hl, hs'⟩ := step_loop hstep
    have ht := (StreamLoop.loopMoved_of_step he hl).tracker
    have hh : (s.calls ++ recordedBy s.loop l).filterMap Call.juror? ++ s.feed.pending =
        s.calls.filterMap Call.juror? ++ s.feed.pending := by
      rw [filterMap_juror_recordedBy_append]
    rcases hs' with rfl | ⟨g, rfl⟩
    · exact h.keep rfl h.start.append ht hh
    · exact h.keep rfl h.start.append ht hh
  | disconnect =>
    obtain rfl := step_disconnect hstep
    exact h.keep rfl h.start.append rfl rfl
  | watcherCancelled =>
    obtain rfl := step_watcherCancelled hstep
    exact h.keep rfl h.start.append rfl rfl
  | join =>
    obtain ⟨-, -, rfl⟩ := step_join hstep
    exact h.keep rfl trivial rfl rfl
  | endSession failure =>
    obtain ⟨-, rfl⟩ := step_endSession hstep
    exact h.keep rfl trivial rfl (by rw [filterMap_juror_append (by simp [Call.juror?])])
  | upload path =>
    obtain ⟨-, rfl⟩ := step_upload hstep
    refine h.keep rfl trivial rfl ?_
    rw [List.filterMap_append, filterMap_juror_uploads, List.append_nil]

/-- Every run keeps the history, with its events added. -/
theorem Hist.run {events : List Event} (h : Hist cfg events s) (hi : Inv cfg s) {more : List Event}
    (hrun : run cfg s more = some s') : Hist cfg (events ++ more) s' := by
  induction more generalizing s events with
  | nil =>
    obtain rfl := Option.some.inj hrun
    simpa using h
  | cons e more ih =>
    simp only [SessionRun.run] at hrun
    obtain ⟨t, hstep, hrest⟩ := Option.bind_eq_some_iff.mp hrun
    have := ih (h.step hi hstep) (hi.step hstep) hrest
    simpa using this

/-! ## The order of the calls -/

/-- Whether a call ends the session. -/
def Call.isEnd : Call → Bool
  | .endSession _ => true
  | .startSession _ _ | .recordCaption _ | .recordFocus _ _ | .upload _ => false

/-- The order of a session's calls: nothing; a refused start; or the start taken
and the run's records, then at most the end and at most one upload, only with
an uploader and an export path that is not empty. -/
def Bracketed (cfg : Config) (calls : List Call) : Prop :=
  calls = [] ∨ (∃ e, calls = [.startSession cfg.session (some e)]) ∨
  ∃ records rest, calls = .startSession cfg.session none :: records ++ rest ∧
    (∀ c ∈ records, c.isRecord = true) ∧
    (rest = [] ∨ ∃ a, rest = [.endSession a] ∨
      ∃ path, rest = [.endSession a, .upload path] ∧ cfg.uploader = true ∧ cfg.uploadable = true ∧
        path ≠ "")

theorem uploads_cases (path : String) :
    uploads cfg path = [] ∨
      (uploads cfg path = [.upload path] ∧ cfg.uploader = true ∧ cfg.uploadable = true ∧ path ≠ "") := by
  unfold uploads
  split
  · next h =>
    simp only [Bool.and_eq_true, Bool.not_eq_true'] at h
    exact .inr ⟨rfl, h.1.1, h.1.2, fun hp => by simp [hp] at h⟩
  · exact .inl rfl

theorem MainFacts.bracketed (h : MainFacts cfg s) : Bracketed cfg s.calls := by
  have started : ∀ {calls}, Started cfg calls → Bracketed cfg calls := by
    rintro calls ⟨records, rfl, hr⟩
    exact .inr (.inr ⟨records, [], by simp, hr, .inl rfl⟩)
  unfold MainFacts at h
  cases hm : s.main <;> rw [hm] at h
  case accepting | preparing | awaitingOperator | starting => exact .inl h.1
  case releasing => exact started ⟨[], h.1, nofun⟩
  case running => exact started h
  case ending => exact started h.1
  case uploading =>
    obtain ⟨⟨records, a, hc, hr⟩, -⟩ := h
    exact .inr (.inr ⟨records, [.endSession a], hc, hr, .inr ⟨a, .inl rfl⟩⟩)
  case returned =>
    obtain ⟨hf | ⟨e, he⟩ | ⟨records, a, path, hc, hr⟩, -⟩ := h
    · exact .inl hf
    · exact .inr (.inl ⟨e, he⟩)
    · refine .inr (.inr ⟨records, .endSession a :: uploads cfg path, hc, hr, .inr ⟨a, ?_⟩⟩)
      rcases uploads_cases path with hu | ⟨hu, hup⟩
      · exact .inl (by rw [hu])
      · exact .inr ⟨path, by rw [hu], hup⟩

theorem countP_isEnd_records {records : List Call} (hr : ∀ c ∈ records, c.isRecord = true) :
    records.countP Call.isEnd = 0 := by
  rw [List.countP_eq_zero]
  intro c hc
  have := hr c hc
  cases c <;> simp_all [Call.isEnd, Call.isRecord]

/-- A server that returned ended the session exactly once if the backend took
its start, and never otherwise. -/
theorem MainFacts.ended_once {f : Option Fault} (h : MainFacts cfg s) (hm : s.main = .returned f) :
    s.calls.countP Call.isEnd = 1 ↔ Call.startSession cfg.session none ∈ s.calls := by
  unfold MainFacts at h
  rw [hm] at h
  obtain ⟨hf | ⟨e, he⟩ | ⟨records, a, path, hc, hr⟩, -⟩ := h
  · simp [hf]
  · simp [he, Call.isEnd]
  · have hu : (uploads cfg path).countP Call.isEnd = 0 := by
      rcases uploads_cases path with hu | ⟨hu, -⟩ <;> rw [hu] <;> rfl
    simp [hc, List.countP_append, List.countP_cons, countP_isEnd_records hr, hu, Call.isEnd]

end

end SessionRun

namespace Storage.MemoryBackend

open SessionRun

variable (now : Instant)

theorem receiveAll_cons (b : MemoryBackend) (c : Call) (calls : List Call) :
    receiveAll now b (c :: calls) = receiveAll now (receive now b c) calls := rfl

theorem receiveAll_records {records : List Call} (hr : ∀ c ∈ records, c.isRecord = true)
    (b : MemoryBackend) :
    (receiveAll now b records).captions.map (·.message) =
        b.captions.map (·.message) ++ records.filterMap Call.message? ∧
      (receiveAll now b records).session = b.session := by
  induction records generalizing b with
  | nil => simp [receiveAll]
  | cons c records ih =>
    rw [receiveAll_cons]
    obtain ⟨hcap, hses⟩ := ih (fun c' hc' => hr c' (List.mem_cons_of_mem c hc')) (receive now b c)
    have hc := hr c List.mem_cons_self
    cases c with
    | recordCaption m =>
      simp only [receive, recordCaption] at hcap hses ⊢
      rw [hcap, hses]
      simp [Call.message?]
    | recordFocus id source =>
      simp only [receive, recordFocus] at hcap hses ⊢
      rw [hcap, hses, List.filterMap_cons_none rfl]
      exact ⟨rfl, rfl⟩
    | _ => cases hc

theorem finish_captions (b : MemoryBackend) :
    (b.finish now).1.captions = b.captions ∧ ((b.finish now).1.session.isSome = b.session.isSome) := by
  obtain ⟨fs, path, he⟩ := finish_frame b now
  simp [he]

theorem summary_captions {b : MemoryBackend} (h : b.session.isSome = true) :
    b.summary.captions = b.captions.length := by
  unfold summary
  split
  · simp_all
  · rfl

theorem receiveAll_bracketed (session : Session) (b : MemoryBackend) {records rest : List Call}
    (hr : ∀ c ∈ records, c.isRecord = true)
    (hrest : rest = [] ∨ ∃ a, rest = [.endSession a] ∨ ∃ path, rest = [.endSession a, .upload path]) :
    let b' := receiveAll now b (.startSession session none :: records ++ rest)
    b'.captions.map (·.message) = records.filterMap Call.message? ∧ b'.summary.captions = b'.captions.length := by
  intro b'
  have hb' : b' = receiveAll now (receiveAll now (b.start session).1 records) rest := by
    simp only [b', receiveAll, List.cons_append, List.foldl_cons, List.foldl_append, receive]
  obtain ⟨hcap, hses⟩ := receiveAll_records now hr (b.start session).1
  -- the start forgets what was recorded before and opens a session
  have hcap₀ : ((b.start session).1.captions.map (·.message)) = [] := rfl
  have hses₀ : (b.start session).1.session.isSome = true := rfl
  rw [hcap₀, List.nil_append] at hcap
  rw [← hses] at hses₀
  generalize receiveAll now (b.start session).1 records = b₁ at hb' hcap hses₀
  rcases hrest with rfl | ⟨a, rfl | ⟨path, rfl⟩⟩
  · rw [hb']
    exact ⟨hcap, summary_captions hses₀⟩
  · obtain ⟨hc, hs⟩ := finish_captions now b₁
    rw [hb']
    refine ⟨?_, summary_captions ?_⟩
    · show (b₁.finish now).1.captions.map (·.message) = _
      rw [hc, hcap]
    · show (b₁.finish now).1.session.isSome = true
      rw [hs, hses₀]
  · obtain ⟨hc, hs⟩ := finish_captions now b₁
    rw [hb']
    refine ⟨?_, summary_captions ?_⟩
    · show (b₁.finish now).1.captions.map (·.message) = _
      rw [hc, hcap]
    · show (b₁.finish now).1.session.isSome = true
      rw [hs, hses₀]

end Storage.MemoryBackend

namespace SessionRun

open Storage

/-- The bytes the server wrote to the client: one frame for each message sent, in order. -/
def written (s : State) : List UInt8 := Frame.stream (s.loop.delivered.map CaptionMessage.body)

/-- What a client decodes from the bytes it reads: at most `count` frames read
with the limit `limit`, each decoded as a caption message. -/
def clientReads (limit count : Nat) (bytes : List UInt8) : List (Except Json.DecodeError CaptionMessage) :=
  (Frame.decodeAll limit count bytes).1.map CaptionMessage.ofBody

section

variable {cfg : Config} {s : State}

/-- A client whose limit is at least the server's decodes every message written,
in order, when the ids fit 64 bits and every frame's length fits its header. -/
theorem Inv.clientReads_written (h : Inv cfg s)
    (hids : ∀ c ∈ cfg.captions, FitsInt64 c.messageId ∧ FitsInt64 c.chunkId)
    (hword : cfg.frameLimit < 4294967296) {limit count : Nat} (hl : cfg.frameLimit ≤ limit)
    (hc : s.loop.delivered.length < count) :
    clientReads limit count (written s) = s.loop.delivered.map .ok := by
  -- every message sent is made from a pair sent, whose caption is the timeline's
  have hsent : ∀ m ∈ s.loop.delivered,
      m.body.length ≤ cfg.frameLimit ∧ FitsInt64 m.messageId ∧ FitsInt64 m.chunkId := by
    intro m hm
    rw [h.loop.delivered] at hm
    obtain ⟨p, hp, rfl⟩ := List.mem_map.mp hm
    obtain ⟨hcap, hlen⟩ := h.sent p hp
    exact ⟨hlen, hids p.1 hcap⟩
  have hfits : Frame.Fits limit (s.loop.delivered.map CaptionMessage.body) := by
    intro b hb
    obtain ⟨m, hm, rfl⟩ := List.mem_map.mp hb
    have := (hsent m hm).1
    exact ⟨by omega, by omega⟩
  unfold clientReads written
  rw [Frame.decodeAll_stream hfits (by simpa using hc), List.map_map]
  refine List.map_congr_left fun m hm => ?_
  exact CaptionMessage.ofBody_body m (hsent m hm).2.1 (hsent m hm).2.2

/-- With the memory backend, a session the backend started keeps the messages
the server wrote, in order, and its summary counts them. -/
theorem Inv.memory_export (h : Inv cfg s) (hstart : Call.startSession cfg.session none ∈ s.calls)
    (now : Instant) (b : MemoryBackend) :
    (MemoryBackend.receiveAll now b s.calls).captions.map (·.message) = s.loop.delivered ∧
      (MemoryBackend.receiveAll now b s.calls).summary.captions = s.loop.delivered.length := by
  rcases h.main.bracketed with hc | ⟨e, hc⟩ | ⟨records, rest, hc, hr, hrest⟩
  · rw [hc] at hstart
    cases hstart
  · rw [hc, List.mem_singleton] at hstart
    cases hstart
  · have hrest' : rest = [] ∨ ∃ a, rest = [.endSession a] ∨ ∃ path, rest = [.endSession a, .upload path] := by
      rcases hrest with rfl | ⟨a, rfl | ⟨path, rfl, -⟩⟩
      · exact .inl rfl
      · exact .inr ⟨a, .inl rfl⟩
      · exact .inr ⟨a, .inr ⟨path, rfl⟩⟩
    -- the messages of the calls are those of the records between the start and the end
    have hmsgs : records.filterMap Call.message? = s.loop.delivered := by
      rw [← h.loop.recorded, ← h.recorded, hc]
      rcases hrest' with rfl | ⟨a, rfl | ⟨path, rfl⟩⟩ <;> simp [List.filterMap_cons, Call.message?]
    obtain ⟨hcap, hsum⟩ := MemoryBackend.receiveAll_bracketed now cfg.session b hr hrest'
    rw [hc]
    refine ⟨hcap.trans hmsgs, ?_⟩
    rw [hsum, ← hmsgs, ← hcap, List.length_map]

theorem run_append (cfg : Config) (s : State) (xs ys : List Event) :
    run cfg s (xs ++ ys) = (run cfg s xs).bind fun t => run cfg t ys := by
  induction xs generalizing s with
  | nil => rfl
  | cons e xs ih =>
    simp only [List.cons_append, SessionRun.run]
    cases step cfg s e with
    | none => rfl
    | some t => exact ih t

theorem ready_of_run {events pre post : List Event} {r : Option String}
    (hrun : run cfg {} events = some s) (he : events = pre ++ .startSession r :: post) :
    Ready cfg pre := by
  rw [he, run_append] at hrun
  obtain ⟨t, hpre, hpost⟩ := Option.bind_eq_some_iff.mp hrun
  simp only [SessionRun.run] at hpost
  obtain ⟨t', hstep, -⟩ := Option.bind_eq_some_iff.mp hpost
  have hist := Hist.init.run Inv.init hpre
  rw [List.nil_append] at hist
  have hm := hist.start
  rw [(step_startSession hstep).1] at hm
  exact hm

/-- **The session bracket, for every interleaving.**  In every reachable state,
whatever the calls return: the backend's calls are `Bracketed`; a start came
after the glasses, the playback and the operator's empty line; a returned server
ended the session exactly once if the start was taken; the recorded messages are
those written and the recorded focus changes the reports with repeats cut; and
with the memory backend a started session keeps what a client decodes. -/
theorem session_bracket (cfg : Config) (events : List Event) (s : State)
    (hrun : run cfg {} events = some s) :
    Bracketed cfg s.calls ∧
    (∀ pre r post, events = pre ++ .startSession r :: post → Ready cfg pre) ∧
    (∀ f, s.main = .returned f →
      (s.calls.countP Call.isEnd = 1 ↔ Call.startSession cfg.session none ∈ s.calls)) ∧
    s.calls.filterMap Call.message? = s.loop.delivered ∧
    s.calls.filterMap Call.juror? ++ s.feed.pending = (reported events).destutter (· ≠ ·) ∧
    (∀ f, s.main = .returned f → s.feed.pending = []) ∧
    ((∀ c ∈ cfg.captions, FitsInt64 c.messageId ∧ FitsInt64 c.chunkId) →
      cfg.frameLimit < 4294967296 → Call.startSession cfg.session none ∈ s.calls →
      ∀ limit count now b, cfg.frameLimit ≤ limit → s.loop.delivered.length < count →
        clientReads limit count (written s) =
            ((MemoryBackend.receiveAll now b s.calls).captions.map (·.message)).map .ok ∧
          (MemoryBackend.receiveAll now b s.calls).summary.captions =
            (clientReads limit count (written s)).length) := by
  have h := Inv.init.run hrun
  have hist := Hist.init.run Inv.init hrun
  rw [List.nil_append] at hist
  have hrec : s.calls.filterMap Call.message? = s.loop.delivered := h.recorded.trans h.loop.recorded
  refine ⟨h.main.bracketed, fun pre r post he => ready_of_run hrun he,
    fun f hm => h.main.ended_once hm, hrec, ?_, fun f hm => ?_, ?_⟩
  · rw [hist.heard, Focus.Tracker.heard_feed_eq_destutter]
  · -- a server that returned has no member left, so no change waits for its listener
    have hf := h.main
    unfold MainFacts at hf
    rw [hm] at hf
    exact pending_of_not_active hf.2.2
  · intro hids hword hstart limit count now b hl hc
    have hclient := h.clientReads_written hids hword hl hc
    obtain ⟨hcap, hsum⟩ := h.memory_export hstart now b
    rw [hclient, hcap, hsum, List.length_map]
    exact ⟨rfl, rfl⟩

/-- A caption of the demonstration session. -/
def helloCaption : Caption := { text := "hello", speaker := "juror-b" }

/-- A session with one caption and one report of focus played to its end: the
glasses connect, the session starts, the juror reported reaches the backend,
the caption goes out, the loop flushes, the members return, the session ends. -/
def oneCaptionRun : List Event :=
  [.accept none, .startSession none, .focus "juror-a", .notify, .emit,
   .loop .takeCaption, .loop .takeFocus, .loop .readCaption, .loop .readFocus, .loop (.send none),
   .timelineEnds, .loop .exit, .loop .readCaption, .loop .readFocus, .loop (.send none),
   .sourceEnds none, .watcherCancelled, .join, .endSession none, .upload ""]

theorem session_bracket_oneCaption :
    ∃ s, run { captions := [helloCaption] } {} oneCaptionRun = some s ∧
      s.calls.filterMap Call.message? = s.loop.delivered ∧
      s.calls.filterMap Call.juror? ++ s.feed.pending = (reported oneCaptionRun).destutter (· ≠ ·) := by
  obtain ⟨s, hs⟩ := Option.isSome_iff_exists.mp
    (by decide +kernel : (run { captions := [helloCaption] } {} oneCaptionRun).isSome = true)
  exact ⟨s, hs, (session_bracket _ _ _ hs).2.2.2.1, (session_bracket _ _ _ hs).2.2.2.2.1⟩

/-- A server told to wait for the operator but given no operator input starts
the session at once: the start needs no operator line. -/
theorem start_without_operator_line :
    ∃ s, run { waitForOperator := true } {} [.accept none, .startSession none] = some s ∧
      Call.startSession ({} : Session) none ∈ s.calls ∧ ∀ line, Event.operatorLine line ∉ [Event.accept none] :=
  ⟨_, rfl, List.mem_singleton.mpr rfl, by simp⟩

end

end SessionRun

end JuryCaptions
