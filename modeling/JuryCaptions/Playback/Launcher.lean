import JuryCaptions.System.Process
import JuryCaptions.Log
import JuryCaptions.Fault
/-!
Playing the juror videos. Preparing finds the player, checks the videos and
parks one player per video at a barrier. Each player then moves on its own:
once released it starts its process, on a cancelled context it returns
unstarted, either first when both happened. Cancelling kills running processes
and drops their failures. Waiting returns once no player is parked or running,
with a line `play <video>: <how it ended>` per failure.
-/

namespace JuryCaptions
namespace Playback

def notPrepared : Fault := .plain "playback not prepared"

def alreadyPrepared : Fault := .plain "playback already prepared"

/-- Where the player of one video stands. -/
inductive Player where
  | parked
  /-- Returned on a cancelled context without starting. -/
  | skipped
  | running
  /-- Its process ended, or was killed. -/
  | ended
  deriving Repr, DecidableEq, Inhabited

structure Launcher where
  player : String
  args : List String
  videos : List String
  /-- The player's path, once prepared. -/
  path : Option String := none
  released : Bool := false
  /-- The player of each video, once prepared. -/
  players : List Player := []
  failures : List String := []
  deriving Inhabited

namespace Launcher

/-- Where a video is looked for: as named when absolute, else under `cwd`. -/
def videoPath (cwd v : String) : String := if v.startsWith "/" then v else Path.join [cwd, v]

def prepare (l : Launcher) (files : Files) (cwd : String) : Launcher × List LogRecord × Option Fault :=
  match Process.lookPath files cwd l.player with
  | .error e => (l, [], some (.plain ("video player " ++ Quote.quoted l.player ++ ": " ++ e)))
  | .ok path =>
    match l.videos.find? (fun v => (files.lookup (videoPath cwd v)).toOption.isNone) with
    | some v =>
      let why := match files.lookup (videoPath cwd v) with
        | .error e => e
        | .ok _ => ""
      (l, [], some (.plain ("video " ++ v ++ ": stat " ++ v ++ ": " ++ why)))
    | none =>
      if l.path.isSome then (l, [], some alreadyPrepared)
      else
        let ready : LogRecord := ⟨.info, "Video players ready", [("videos", .nat l.videos.length)]⟩
        ({ l with path := some path, players := l.videos.map fun _ => .parked }, [ready], none)

/-- Plays one video to its end with the player at `path`, noting how it failed. -/
def playOne (path cwd : String) (args : List String) (acc : Files × List String) (v : String) :
    Files × List String :=
  match Process.start acc.1 cwd path (args ++ [v]) "" false with
  | .error e => (acc.1, acc.2 ++ ["play " ++ v ++ ": " ++ e])
  | .ok o =>
    match Process.Ending.failure o.ending with
    | some e => (o.files, acc.2 ++ ["play " ++ v ++ ": " ++ e])
    | none => (o.files, acc.2)

/-- Opens the barrier, once prepared; the players start on their own. -/
def release (l : Launcher) : Launcher × Option Fault :=
  if l.path.isSome then ({ l with released := true }, none) else (l, some notPrepared)

def wait (l : Launcher) : Option Fault :=
  if l.failures.isEmpty then none else some (.plain ("\n".intercalate l.failures))

/-- A call of the launcher's methods, the cancel of the context `prepare` was
given, or a step of the player of the `i`th video. -/
inductive Call where
  | prepare
  | release
  | wait
  | cancel
  /-- The player leaves the barrier and starts its process. -/
  | start (i : Nat)
  /-- The player sees the cancelled context and returns. -/
  | skip (i : Nat)
  /-- The process ends. -/
  | finish (i : Nat)
  /-- The cancelled context kills the process. -/
  | kill (i : Nat)
  deriving Repr, DecidableEq

/-- A launcher among the files its players read and write, and whether the
context given to `prepare` is cancelled. -/
structure Session where
  launcher : Launcher
  files : Files
  cancelled : Bool

/-- The session with the player of the `i`th video moved to `p`. -/
def Session.move (s : Session) (i : Nat) (p : Player) : Session :=
  { s with launcher := { s.launcher with players := s.launcher.players.set i p } }

/-- Whether the player of the `i`th video stands at `p`. -/
def Session.at (s : Session) (i : Nat) (p : Player) : Bool := s.launcher.players[i]? == some p

/-- One call or step: the session after it, its logs and failure, or `none`
when it cannot happen now, as a wait while a player is parked or running. -/
def Session.call (cwd : String) (s : Session) : Call → Option (Session × List LogRecord × Option Fault)
  | .prepare =>
    let (l, logs, err) := s.launcher.prepare s.files cwd
    some ({ s with launcher := l }, logs, err)
  | .release =>
    let (l, err) := s.launcher.release
    some ({ s with launcher := l }, [], err)
  | .wait =>
    if s.launcher.players.all (fun p => p == .skipped || p == .ended) then some (s, [], s.launcher.wait) else none
  | .cancel => some ({ s with cancelled := true }, [], none)
  | .start i =>
    match s.launcher.videos[i]? with
    | some v =>
      if s.at i .parked && s.launcher.released then
        some (s.move i .running, [⟨.debug, "Starting video", [("file", .str (Path.base v))]⟩], none)
      else none
    | none => none
  | .skip i => if s.at i .parked && s.cancelled then some (s.move i .skipped, [], none) else none
  | .finish i =>
    match s.launcher.path, s.launcher.videos[i]? with
    | some path, some v =>
      if s.at i .running then
        let (files, fails) := playOne path cwd s.launcher.args (s.files, []) v
        -- a failure is dropped once the context is cancelled
        let l := (s.move i .ended).launcher
        some (⟨{ l with failures := l.failures ++ if s.cancelled then [] else fails }, files, s.cancelled⟩, [], none)
      else none
    | _, _ => none
  | .kill i => if s.at i .running && s.cancelled then some (s.move i .ended, [], none) else none

/-- One schedule of the players: in the order of the videos, each starts and
ends once released, or returns on a cancelled context. -/
def Session.settle (cwd : String) (s : Session) : Session :=
  let after (s : Session) (c : Call) : Session := ((s.call cwd c).map (·.1)).getD s
  (List.range s.launcher.players.length).foldl (fun s i =>
    if s.cancelled then after s (.skip i) else after (after s (.start i)) (.finish i)) s

end Launcher

end Playback
end JuryCaptions
