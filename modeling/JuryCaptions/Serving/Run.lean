import JuryCaptions.Caption.Loop
import JuryCaptions.Serving.Session
import JuryCaptions.Storage.Memory
/-!
A caption session as the server's goroutines run it, one step at a time.

The main goroutine accepts the glasses, prepares the playback, awaits the
operator when asked and starts the recorded session; then it releases the
playback and runs the player, the focus source, the streamer's loop and a
client watcher until all return, waits for the playback, ends the session and
uploads the export. Cancelling the common context stops them all. After the
start the session is always ended, a failure to end it added to the run's.
Each step is one move of one goroutine; the model keeps the calls made on the
backend and the uploader, in order.
-/

namespace JuryCaptions

/-- The loop's own moves, as against the changes of its sources and its
cancellation, which are moves of other goroutines. -/
def StreamLoop.Event.byLoop : StreamLoop.Event → Bool
  | .emit _ | .focus _ | .cancel => false
  | _ => true

namespace SessionRun

structure Config where
  /-- Whether a video playback is prepared before the session and released at its start. -/
  playback : Bool := false
  waitForOperator : Bool := false
  /-- Whether there is an operator input to wait on. -/
  operator : Bool := false
  /-- Whether there is an uploader. -/
  uploader : Bool := false
  /-- Whether the backend keeps an export that can be uploaded. -/
  uploadable : Bool := false
  captions : List Caption := []
  frameLimit : Nat := Frame.defaultLimit
  /-- The session handed to the backend when it starts; its focus source is
  the name recorded with each focus change. -/
  session : Session := {}
  deriving Inhabited

/-- A call the server makes on the recording backend or the uploader, with the
backend's answer where the server acts on it. -/
inductive Call where
  | startSession (s : Session) (failure : Option String)
  | recordCaption (m : CaptionMessage)
  | recordFocus (id : SpeakerId) (source : String)
  | endSession (failure : Option String)
  | upload (path : String)
  deriving Inhabited

inductive Main where
  /-- Waiting for the glasses to connect. -/
  | accepting
  /-- Connected; preparing the playback. -/
  | preparing
  /-- Prompted the operator; reading lines. -/
  | awaitingOperator
  /-- About to start the session in the backend. -/
  | starting
  /-- Started the session; about to release the playback. -/
  | releasing
  /-- Waiting for the members of the run to return. -/
  | running
  /-- The run is over; about to end the session in the backend. -/
  | ending
  /-- Ended the session; about to upload its export. -/
  | uploading
  /-- Returned, with the failure it returned if there was one. -/
  | returned (failure : Option Fault)
  deriving Inhabited

inductive Timeline where
  | idle
  /-- Playing; these captions are still to come. -/
  | playing (rest : List Caption)
  | finished
  deriving Inhabited

inductive Feed where
  | idle
  /-- The source may report the next juror. -/
  | feeding
  /-- The tracker took a change and is about to tell its listener. -/
  | notifying (id : SpeakerId)
  | finished
  deriving Inhabited

/-- The server's goroutines, and the calls made so far. -/
structure State where
  main : Main := .accepting
  /-- The streamer's loop, the player's caption, the tracker and the context's
  cancellation. -/
  loop : StreamLoop.State := {}
  timeline : Timeline := .idle
  feed : Feed := .idle
  /-- Whether the watcher of the client is running. -/
  watching : Bool := false
  /-- The failure the run ends with, once there is one. -/
  failure : Option Fault := none
  /-- The calls on the backend and the uploader, in order. -/
  calls : List Call := []
  deriving Inhabited

/-- What can happen next. Each event is one move of one goroutine, or the
caller cancelling. -/
inductive Event where
  | cancel
  | accept (failure : Option Fault)
  | prepare (failure : Option Fault)
  | operatorLine (line : String)
  /-- The operator input ends, or fails to read. -/
  | operatorEnds (readFailure : Option Fault)
  /-- The wait for the operator sees the context cancelled. -/
  | operatorCancelled
  | startSession (failure : Option String)
  | release (failure : Option Fault)
  /-- The player emits its next caption. -/
  | emit
  /-- The player has emitted every caption; it waits for the playback and cancels. -/
  | timelineEnds
  | playerCancelled
  /-- The source reports a juror to the tracker. -/
  | focus (id : SpeakerId)
  /-- The tracker tells the backend of the change it took. -/
  | notify
  | sourceEnds (failure : Option Fault)
  /-- A move of the streamer's loop. -/
  | loop (e : StreamLoop.Event)
  /-- The client goes away; the watcher cancels. -/
  | disconnect
  | watcherCancelled
  /-- Every member has returned. -/
  | join
  | endSession (failure : Option String)
  /-- The upload step, with the export path the backend reports. -/
  | upload (exportPath : String)
  deriving Inhabited

/-- The recorder calls a move of the loop made: the messages it handed over. -/
def recordedBy (before after : StreamLoop.State) : List Call :=
  (after.recorded.drop before.recorded.length).map .recordCaption

/-- A move of the loop or of one of its sources, with the recorder calls it made. -/
def moveLoop (cfg : Config) (s : State) (e : StreamLoop.Event) : Option State :=
  (StreamLoop.step cfg.frameLimit s.loop e).map fun l =>
    { s with loop := l, calls := s.calls ++ recordedBy s.loop l }

namespace State

def cancel (s : State) : State := { s with loop := { s.loop with cancelled := true } }

/-- A member returned with a failure: the first failure is the run's, and it
cancels the others. -/
def fail (s : State) (f : Fault) : State := { s.cancel with failure := s.failure <|> some f }

def startMembers (s : State) (cfg : Config) : State :=
  { s with main := .running, timeline := .playing cfg.captions, feed := .feeding, watching := true }

def membersDone (s : State) : Bool :=
  match s.timeline, s.feed, s.loop.phase with
  | .finished, .finished, .returned _ => !s.watching
  | _, _, _ => false

end State

/-- Where the main goroutine goes once the playback is prepared: to the
operator when it waits for one and has an input to read, else to the start. -/
def afterPrepare (cfg : Config) : Main :=
  if cfg.waitForOperator && cfg.operator then .awaitingOperator else .starting

def afterAccept (cfg : Config) : Main :=
  if cfg.playback then .preparing else afterPrepare cfg

/-- What follows a started session: the playback's release, or the run at once. -/
def afterStart (cfg : Config) (s : State) : State :=
  if cfg.playback then { s with main := .releasing } else s.startMembers cfg

/-- The uploader's call after the session ended: only when there is an
uploader, the backend keeps an export and its path is not empty. -/
def uploads (cfg : Config) (path : String) : List Call :=
  if cfg.uploader && cfg.uploadable && !path.isEmpty then [.upload path] else []

/-- A move of the streamer: a failure it returns with is a member's failure. -/
def streamerStep (cfg : Config) (s : State) (e : StreamLoop.Event) : Option State :=
  (moveLoop cfg s e).map fun s' =>
    match s'.loop.phase with
    | .returned (some f) => s'.fail f
    | _ => s'

/-- The failure the session returns once ending it answered `failure`. -/
def endedFailure (run : Option Fault) (failure : Option String) : Option Fault :=
  match failure with
  | some e => some (Serving.joinFailures run (.plain e))
  | none => run

/-- One step, or `none` when the event cannot happen now. -/
def step (cfg : Config) (s : State) : Event → Option State
  | .cancel => some s.cancel
  | .accept failure =>
    match s.main, failure with
    | .accepting, some f => some { s with main := .returned (some f) }
    | .accepting, none => some { s with main := afterAccept cfg }
    | _, _ => none
  | .prepare failure =>
    match s.main, failure with
    | .preparing, some f => some { s with main := .returned (some f) }
    | .preparing, none => some { s with main := afterPrepare cfg }
    | _, _ => none
  | .operatorLine line =>
    match s.main with
    | .awaitingOperator =>
      if line.utf8ByteSize ≥ Operator.lineLimit then
        some { s with main := .returned (some (Operator.waitFailure Operator.tooLong)) }
      else if Operator.isBlank line then some { s with main := .starting }
      else some s
    | _ => none
  | .operatorEnds readFailure =>
    match s.main with
    | .awaitingOperator =>
      some { s with main := .returned (some (Operator.waitFailure (readFailure.getD Operator.endOfInput))) }
    | _ => none
  | .operatorCancelled =>
    match s.main with
    | .awaitingOperator =>
      if s.loop.cancelled then some { s with main := .returned (some Player.cancelled) } else none
    | _ => none
  | .startSession failure =>
    match s.main with
    | .starting =>
      let s := { s with calls := s.calls ++ [.startSession cfg.session failure] }
      match failure with
      | some e => some { s with main := .returned (some (.plain ("starting session: " ++ e))) }
      | none => some (afterStart cfg s)
    | _ => none
  | .release failure =>
    match s.main, failure with
    | .releasing, some f => some { s with main := .ending, failure := some f }
    | .releasing, none => some (s.startMembers cfg)
    | _, _ => none
  | .emit =>
    match s.timeline with
    | .playing (c :: rest) => (moveLoop cfg s (.emit c)).map fun s => { s with timeline := .playing rest }
    | _ => none
  | .timelineEnds =>
    match s.timeline with
    | .playing [] => some { s.cancel with timeline := .finished }
    | _ => none
  | .playerCancelled =>
    match s.timeline with
    | .playing (_ :: _) => if s.loop.cancelled then some { s with timeline := .finished } else none
    | _ => none
  | .focus id =>
    match s.feed with
    | .feeding =>
      let changed := (s.loop.tracker.set id).2
      (moveLoop cfg s (.focus id)).map fun s => { s with feed := if changed then .notifying id else .feeding }
    | _ => none
  | .notify =>
    match s.feed with
    | .notifying id =>
      some { s with feed := .feeding, calls := s.calls ++ [.recordFocus id cfg.session.focusSource] }
    | _ => none
  | .sourceEnds failure =>
    match s.feed, failure with
    | .feeding, some f => some { s.fail f with feed := .finished }
    | .feeding, none => some { s with feed := .finished }
    | _, _ => none
  | .loop e =>
    match s.main with
    | .running => if e.byLoop then streamerStep cfg s e else none
    | _ => none
  | .disconnect => if s.watching then some { s.cancel with watching := false } else none
  | .watcherCancelled =>
    if s.watching && s.loop.cancelled then some { s with watching := false } else none
  | .join =>
    match s.main with
    | .running => if s.membersDone then some { s with main := .ending } else none
    | _ => none
  | .endSession failure =>
    match s.main with
    | .ending =>
      some { s with main := .uploading, calls := s.calls ++ [.endSession failure],
                    failure := endedFailure s.failure failure }
    | _ => none
  | .upload path =>
    match s.main with
    | .uploading => some { s with main := .returned s.failure, calls := s.calls ++ uploads cfg path }
    | _ => none

/-- The state after a sequence of events, or `none` when one of them cannot
happen when its turn comes. -/
def run (cfg : Config) (s : State) : List Event → Option State
  | [] => some s
  | e :: es => (step cfg s e).bind fun s' => run cfg s' es

end SessionRun

namespace Storage.MemoryBackend

/-- The memory backend taking one call of a session. Times are not modelled:
every record is stamped `now`, and a caption record carries no delay. -/
def receive (now : Instant) (b : MemoryBackend) : SessionRun.Call → MemoryBackend
  | .startSession s _ => (b.start s).1
  | .recordCaption m => b.recordCaption ⟨now, m, 0⟩
  | .recordFocus id source => b.recordFocus ⟨now, id, source⟩
  | .endSession _ => (b.finish now).1
  | .upload _ => b

def receiveAll (now : Instant) (b : MemoryBackend) (calls : List SessionRun.Call) : MemoryBackend :=
  calls.foldl (receive now) b

end Storage.MemoryBackend

end JuryCaptions
