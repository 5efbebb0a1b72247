import JuryCaptions.Serving.Operator
import JuryCaptions.Caption.Stream
import JuryCaptions.Focus.Tracker
import JuryCaptions.Storage.Records
import JuryCaptions.Playback.Launcher
/-!
A caption session for one pair of glasses: playback prepared, operator awaited
when asked, session started and playback released; captions go out with the
juror in focus and are recorded. After the start the session is always ended.
-/

namespace JuryCaptions
namespace Serving

structure StandIn where
  prepare : Option Fault := none
  release : Option Fault := none
  wait : Option Fault := none
  deriving Inhabited

inductive Playback where
  | none
  | standIn (s : StandIn)
  | launcher (l : Playback.Launcher)
  deriving Inhabited

structure Recorder where
  startFailure : Option String := none
  endFailure : Option String := none
  focusFailure : Option String := none
  /-- The export file to upload, when the recorder has one. -/
  export? : Option String := none
  deriving Inhabited

structure Setup where
  method : RenderingMethod
  captions : List Caption
  captionsFile : String := ""
  sourceName : String := ""
  frameLimit : Nat
  waitForOperator : Bool := false
  operator : Option String := none
  /-- The jurors the focus source reports as soon as the session starts. -/
  focus : List SpeakerId := []
  /-- How the focus source fails after reporting them, if it does. -/
  focusFailure : Option String := none
  recorder : Recorder := {}
  /-- The uploader, with how its upload fails, if there is one. -/
  uploader : Option (Option String) := none
  playback : Playback := .none
  files : Files
  cwd : String
  uuid : String
  clientAddr : String

structure Report where
  output : String := ""
  received : List CaptionMessage := []
  ended : Nat := 0
  session : Option Session := none
  recordedCaptions : List CaptionMessage := []
  recordedFocus : List (SpeakerId × String) := []
  logs : List LogRecord := []
  uploads : List (String × Nat) := []
  failure : Option Fault := none
  files : Files

def joinFailures (first : Option Fault) (later : Fault) : Fault :=
  match first with
  | some f => ⟨f.kind, f.message ++ "\n" ++ later.message⟩
  | none => later

def Report.awaitPlayback (r : Report) (p : Playback) : Report :=
  let failure := match p with
    | .none => none
    | .standIn s => s.wait
    | .launcher l => l.wait
  match failure with
  | some f => { r with logs := r.logs ++ [⟨.warn, "Video playback failed", [("error", .str f.message)]⟩] }
  | none => r

/-- Plays the captions: records and tracks the focus changes, then streams the
captions; the failure that stopped the session, if any. -/
def Report.stream (r : Report) (s : Setup) (session : Session) : Report × Option Fault := Id.run do
  let mut r := r
  let (tracker, heard) := Focus.Tracker.feed {} s.focus
  for id in heard do
    r := { r with recordedFocus := r.recordedFocus ++ [(id, session.focusSource)] }
    if let some e := s.recorder.focusFailure then
      r := { r with logs := r.logs ++ [⟨.warn, "Failed to record focus", [("error", .str e)]⟩] }
  if let some e := s.focusFailure then
    return (r, some (.plain e))
  let mut stream : CaptionStream := {}
  for c in s.captions do
    match stream.pass (some c) tracker.current s.frameLimit none with
    | (_, .failed f) => return (r, some f)
    | (st, .sent msg _) =>
      stream := st
      r := { r with received := r.received ++ [msg], recordedCaptions := r.recordedCaptions ++ [msg] }
    | (st, .idle) => stream := st
  return ({ r with logs := r.logs ++ [⟨.info, "Captions sent", [("messages", .nat stream.count)]⟩] }, none)

def serve (s : Setup) : Report := Id.run do
  let mut r : Report := { files := s.files }
  r := { r with logs := [⟨.info, "Glasses connected", [("remote", .str s.clientAddr)]⟩] }
  let mut playback := s.playback
  match playback with
  | .none => pure ()
  | .standIn st =>
    if let some f := st.prepare then return { r with failure := some f }
  | .launcher l =>
    let (l, logs, err) := l.prepare r.files s.cwd
    r := { r with logs := r.logs ++ logs }
    if let some f := err then return { r with failure := some f }
    playback := .launcher l
  if s.waitForOperator then
    if let some text := s.operator then
      let (printed, result) := Operator.awaitStart text
      r := { r with output := r.output ++ printed }
      if let some f := result then
        return { r.awaitPlayback playback with failure := some f }
  let session : Session :=
    { uuid := s.uuid, method := s.method, captionsFile := s.captionsFile, focusSource := s.sourceName, clientAddr := s.clientAddr }
  r := { r with session := some session }
  if let some e := s.recorder.startFailure then
    return { r.awaitPlayback playback with failure := some (.plain ("starting session: " ++ e)) }
  -- the session runs
  let mut failure : Option Fault := none
  match playback with
  | .none => pure ()
  | .standIn st => failure := st.release
  | .launcher l =>
    let (l, err) := l.release
    -- the players run beside the stream, which reads none of their files
    let players := Playback.Launcher.Session.settle s.cwd ⟨l, r.files, false⟩
    r := { r with files := players.files }
    playback := .launcher players.launcher
    failure := err
  if failure.isNone then
    let (r', f) := r.stream s session
    r := r'
    failure := f
  r := r.awaitPlayback playback
  r := { r with ended := r.ended + 1 }
  if let some e := s.recorder.endFailure then
    r := { r with logs := r.logs ++ [⟨.error, "Failed to end session", [("error", .str e)]⟩] }
    failure := some (joinFailures failure (.plain e))
  if let some uploadFailure := s.uploader then
    if let some path := s.recorder.export? then
      if !path.isEmpty then
        r := { r with uploads := r.uploads ++ [(path, r.recordedCaptions.length)] }
        match uploadFailure with
        | some e =>
          r := { r with logs := r.logs ++ [⟨.error, "Failed to upload session",
            [("file", .str path), ("error", .str e)]⟩] }
        | none => r := { r with logs := r.logs ++ [⟨.info, "Session uploaded", [("file", .str path)]⟩] }
  r := { r with logs := r.logs ++ [⟨.info, "Session finished", [("session", .str s.uuid)]⟩] }
  return { r with failure := failure }

end Serving
end JuryCaptions
