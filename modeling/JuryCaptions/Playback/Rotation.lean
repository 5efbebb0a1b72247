import JuryCaptions.Playback.Launcher
import JuryCaptions.Playback.Schedule
/-!
Playing a clip schedule block by block.

In each block every other juror loops an idle clip, started with the loop
arguments, while the active speaker's clip plays once; then the idle players
stop. The rotation ends after the last block, at a block without a speaker,
or with the first active clip that does not end cleanly.
-/

namespace JuryCaptions
namespace Playback

structure Rotation where
  player : String
  args : List String
  loopArgs : List String
  schedule : Schedule
  /-- The player's path, once prepared. -/
  path : Option String := none
  released : Bool := false
  failure : Option Fault := none
  deriving Inhabited

namespace Rotation

def prepare (r : Rotation) (files : Files) (cwd : String) : Rotation × Option Fault :=
  match Process.lookPath files cwd r.player with
  | .error e => (r, some (.plain ("video player " ++ Quote.quoted r.player ++ ": " ++ e)))
  | .ok path =>
    if r.path.isSome then (r, some alreadyPrepared) else ({ r with path := some path }, none)

/-- Starts a looping idle clip for a juror, unless an earlier start failed. -/
def startIdle (r : Rotation) (path cwd : String) (acc : Except Fault Files) (idle : SpeakerId × String) :
    Except Fault Files :=
  match acc with
  | .error e => .error e
  | .ok files =>
    match Process.start files cwd path (r.args ++ r.loopArgs ++ [idle.2]) "" true with
    | .ok o => .ok o.files
    | .error e => .error (.plain ("idle clip for " ++ idle.1 ++ ": " ++ e))

/-- Plays the current block: starts the idle players, then plays the active
clip to its end. -/
def playBlock (r : Rotation) (path : String) (files : Files) (cwd : String) (active : SpeakerId)
    (clips : List (SpeakerId × String)) : Files × List LogRecord × Option Fault :=
  let idle := clips.filter (·.1 != active)
  let started := idle.foldl (r.startIdle path cwd) (.ok files)
  match started with
  | .error e => (files, [], some e)
  | .ok files =>
    let clip := ((clips.find? (·.1 == active)).map (·.2)).getD ""
    let log : LogRecord := ⟨.debug, "Playing active clip",
      [("speaker", .str active), ("clip", .str (Path.base clip)), ("block", .nat r.schedule.block)]⟩
    match Process.start files cwd path (r.args ++ [clip]) "" false with
    | .error e => (files, [log], some (.plain ("play " ++ clip ++ ": " ++ e)))
    | .ok o =>
      match Process.Ending.failure o.ending with
      | some e => (o.files, [log], some (.plain ("play " ++ clip ++ ": " ++ e)))
      | none => (o.files, [log], none)

def playFrom : Nat → Rotation → String → Files → String → Rotation × Files × List LogRecord
  | 0, r, _, files, _ => (r, files, [])
  | f + 1, r, path, files, cwd =>
    let active := r.schedule.active
    if !SpeakerId.isSet active then (r, files, [])
    else
      let (clips, s) := r.schedule.current
      let r := { r with schedule := s }
      match r.playBlock path files cwd active clips with
      | (files, logs, some e) => ({ r with failure := some e }, files, logs)
      | (files, logs, none) =>
        let (more, s) := r.schedule.advance
        let r := { r with schedule := s }
        if more then
          let (r, files, rest) := playFrom f r path files cwd
          (r, files, logs ++ rest)
        else
          let done : LogRecord := ⟨.info, "Video rotation finished", [("blocks", .nat s.block)]⟩
          (r, files, logs ++ [done])

/-- Starts the rotation, unless its context was cancelled, and plays it to its end. -/
def release (r : Rotation) (files : Files) (cwd : String) (cancelled : Bool) :
    Rotation × Files × List LogRecord × Option Fault :=
  match r.path with
  | none => (r, files, [], some notPrepared)
  | some path =>
    if r.released then (r, files, [], none)
    else if cancelled then ({ r with released := true }, files, [], none)
    else
      let (r, files, logs) := playFrom (r.schedule.blocks.length + 1) { r with released := true } path files cwd
      (r, files, logs, none)

def wait (r : Rotation) : Option Fault :=
  match r.path with
  | none => some notPrepared
  | some _ => r.failure

end Rotation

end Playback
end JuryCaptions
