import JuryCaptions.Service.Playback
import JuryCaptions.Service.Scene
import JuryCaptions.Playback.Rotation
import JuryCaptions.Playback.Schedule
/-!
Video playback with stand-in players, run in a scratch directory.

The scratch directory lies at `scratchRoot` in the file tree; requests and
answers write it as `<dir>`. By default a player is the shell running a short
script that notes its video in `played.log`.
-/

namespace JuryCaptions
namespace Service

open Playback

def scratchRoot : String := "/tmp/scratch"

def enterScratch (s : String) : String := s.replace scratchDir scratchRoot

def showScratch (j : Json) : Json := j.mapText (·.replace scratchRoot scratchDir)

def scratchFiles : Files := Files.system.mkdirAll scratchRoot

def defaultPlayer : String := "/bin/sh"

/-- The default player script: notes the video in `played.log`. -/
def notingScript : String := "echo \"$0\" >> <dir>/played.log"

/-- The default rotation script: idle clips wait, active ones are noted. -/
def rotationScript : String := "[ \"$0\" = --loop ] && exec sleep 5; echo \"$0\" >> <dir>/played.log"

/-- The lines noted in `played.log`, blank ones left out. -/
def playedLines (files : Files) : List String :=
  match files.read (scratchRoot ++ "/played.log") with
  | .ok t => (t.splitOn "\n").filter (· ≠ "")
  | .error _ => []

/-- A log record in an answer, its level at least `least`. -/
def logsJson (least : Level) (logs : List LogRecord) : Json :=
  .arr ((LogRecord.atLeast least logs).map logJson)

def Req.player (r : Json) (script : String) : Handled (String × List String) := do
  let player ← Req.strD r "player" defaultPlayer
  let script ← Req.strD r "script" script
  let args ← if r.has "args" then Req.strs r "args" else pure ["-c", script]
  pure (enterScratch player, args.map enterScratch)

/-- Runs launcher steps over empty videos in the scratch directory, refusing
those that would block or race. -/
def launcherOp (r : Json) : Handled Json := do
  let names ← Req.strs r "files"
  let paths ← if r.has "paths" then Req.strs r "paths" else pure (names.map (scratchDir ++ "/" ++ ·))
  let (player, args) ← Req.player r notingScript
  let ops ← Req.strs r "ops"
  let files := names.foldl (fun fs n => fs.create (scratchRoot ++ "/" ++ n) "" false) scratchFiles
  let start : Launcher.Session :=
    ⟨{ player := player, args := args.map enterScratch, videos := paths.map enterScratch }, files, false⟩
  let step (acc : Launcher.Session × List Json) (op : String) : Handled (Launcher.Session × List Json) := do
    let (s, out) := acc
    let call (s : Launcher.Session) (c : Launcher.Call) : Handled (Launcher.Session × List LogRecord × Option Fault) :=
      match s.call scratchRoot c with
      | some r => pure r
      | none => throw (badInput "wait before release would block")
    let noted (s : Launcher.Session) (logs : List LogRecord) (more : List (String × Json)) (err : Option Fault) :=
      (s, out ++ [Json.obj ([("logs", logsJson .info logs)] ++ more ++ Json.optField "error" (err.map faultJson))])
    match op with
    | "prepare" =>
      let (s, logs, err) ← call s .prepare
      pure (noted s logs [] err)
    | "release" =>
      let (s, logs, err) ← call s .release
      pure (noted s logs [] err)
    | "wait" =>
      let (s, logs, err) ← call (s.settle scratchRoot) .wait
      let played := (playedLines s.files).mergeSort fun a b => decide (a ≤ b)
      let err := err.map fun f =>
        { f with message := "\n".intercalate ((f.message.splitOn "\n").mergeSort fun a b => decide (a ≤ b)) }
      pure (noted s logs [("played", Json.strs played)] err)
    | "cancel" =>
      if s.launcher.released then throw (badInput "cancel after release races the players")
      let (s, logs, err) ← call s .cancel
      pure (noted s logs [] err)
    | "files" => pure (s, out ++ [.obj [("files", Json.strs s.launcher.videos), ("logs", logsJson .info [])]])
    | other => throw (unknown "launcher op" other)
  let (_, steps) ← ops.foldlM step (start, [])
  pure (showScratch (answer [("steps", .arr steps)]))

def rotationOp (r : Json) : Handled Json := do
  let seed ← Req.int r "seed"
  let blockIds ← Req.strs r "blocks"
  let idle ← Req.lists r "idle"
  let (player, args) ← Req.player r rotationScript
  let loopArgs ← if r.has "loop_args" then Req.strs r "loop_args" else pure ["--loop"]
  let ops ← Req.strs r "ops"
  if seed = 0 then throw (badInput "seed must not be 0 (0 seeds from the clock)")
  if blockIds.length > 8 then throw (badInput "at most 8 blocks")
  let files := Juror.all.foldl (fun fs j =>
    let names := ((idle.find? (·.1 == j.id)).map (·.2)).getD ["idle.mp4"]
    let dir := idleDir scratchRoot j.id
    names.foldl (fun fs n => fs.create (dir ++ "/" ++ n) "" false) (fs.mkdirAll dir)) scratchFiles
  let listing (id : SpeakerId) : Option (List DirEntry) :=
    match files.list (idleDir scratchRoot id) with
    | .ok es => some (es.map fun (n, e) => { name := n, isDir := e == .dir })
    | .error _ => none
  match Schedule.create scratchRoot blockIds seed listing with
  | .error f => pure (showScratch (faultJson f))
  | .ok sched =>
    let start : Rotation :=
      { player := player, args := args.map enterScratch, loopArgs := loopArgs.map enterScratch, schedule := sched }
    let step (acc : Rotation × Files × Bool × Bool × List LogRecord × List Json) (op : String) :
        Handled (Rotation × Files × Bool × Bool × List LogRecord × List Json) := do
      let (rot, files, cancelled, waited, pending, out) := acc
      -- the logs are shown, and cleared, until the release
      let noted (rot : Rotation) (files : Files) (cancelled : Bool) (pending : List LogRecord) more :=
        let shown := if rot.released then [] else [("logs", logsJson .debug pending)]
        (rot, files, cancelled, waited, (if shown.isEmpty then pending else []), out ++ [.obj (shown ++ more)])
      match op with
      | "prepare" =>
        let (rot, err) := rot.prepare files scratchRoot
        pure (noted rot files cancelled pending (Json.optField "error" (err.map faultJson)))
      | "release" =>
        if rot.path.isSome && cancelled && !waited then
          throw (badInput "release after cancel races the rotation's start: wait first")
        let (rot, files, logs, err) := rot.release files scratchRoot cancelled
        pure (noted rot files cancelled (pending ++ logs) (Json.optField "error" (err.map faultJson)))
      | "wait" =>
        if rot.path.isSome && !rot.released && !cancelled then throw (badInput "wait before release would block")
        let err := rot.wait
        pure (rot, files, cancelled, true, [], out ++ [.obj ([("block", .nat rot.schedule.block),
          ("logs", logsJson .debug pending), ("played", Json.strs (playedLines files))] ++
          Json.optField "error" (err.map faultJson))])
      | "cancel" =>
        if rot.released && !waited then throw (badInput "cancel while the rotation runs races its players")
        pure (noted rot files true pending [])
      | other => throw (unknown "rotation op" other)
    let (_, _, _, _, _, steps) ← ops.foldlM step (start, files, false, false, [], [])
    pure (showScratch (answer [("steps", .arr steps)]))

def cutOp (r : Json) : Handled Json := do
  let script ← Req.str r "script"
  let tool ← Req.strD r "ffmpeg" (scratchDir ++ "/ffmpeg")
  let input ← Req.str r "in"
  let output ← Req.str r "out"
  let start ← Req.int r "from_ns"
  let stop ← Req.int r "to_ns"
  let cancelled ← Req.bool r "cancelled"
  let files := scratchFiles.create (scratchRoot ++ "/ffmpeg") script true
  let (after, err) := cut files scratchRoot (enterScratch tool) (enterScratch input) (enterScratch output)
    start stop cancelled
  let written := after.changedSince files scratchRoot
  pure (showScratch (answer (Json.optField "error" (err.map faultJson) ++
    [("written", .obj (written.map fun (n, t) => (n, Json.str t)))])))

end Service
end JuryCaptions
