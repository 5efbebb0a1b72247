import JuryCaptions.Caption.Basic
import JuryCaptions.Random.Source
import JuryCaptions.Time.Duration
import JuryCaptions.System.Process
import JuryCaptions.Text.Blank
/-!
Which clip every juror's screen plays, block by block: block `N`, from one, has
its speaker play `N.mp4` while the other jurors loop idle clips from their own
directories. A caption starts a block when its message id differs from the one
before (the first's from `-1`).
-/

namespace JuryCaptions
namespace Playback

def blocks (captions : List Caption) : List SpeakerId :=
  (captions.foldl (fun (acc : Int × List SpeakerId) c =>
    if c.messageId == acc.1 then acc else (c.messageId, c.speaker :: acc.2)) (-1, [])).2.reverse

/-- A whole number as written with at least two digits, negative ones as they are. -/
def twoDigits (n : Int) : String :=
  if n < 0 then toString n
  else if n < 10 then "0" ++ toString n else toString n

/-- A time as `hh:mm:ss`, cut toward zero to whole seconds. -/
def clock (d : Duration) : String :=
  let d := d - d.tmod 1000000000
  let h := d.tdiv 3600000000000
  let d := d - h * 3600000000000
  let m := d.tdiv 60000000000
  let d := d - m * 60000000000
  twoDigits h ++ ":" ++ twoDigits m ++ ":" ++ twoDigits (d.tdiv 1000000000)

/-- The arguments that copy the part `[start, stop)` of video `input` into `output`. -/
def cutArgs (input output : String) (start stop : Duration) : List String :=
  ["-err_detect", "ignore_err", "-i", input, "-ss", clock start, "-to", clock stop, "-c", "copy", output]

/-- Cuts `[start, stop)` of a video into `output` with the tool `tool`. -/
def cut (files : Files) (cwd tool input output : String) (start stop : Duration) (cancelled : Bool) :
    Files × Option Fault :=
  let fail (why said : String) := Fault.plain ("cut " ++ input ++ ": " ++ why ++ ": " ++ said)
  match Process.run files cwd tool (cutArgs input output start stop) "" false cancelled with
  | .error e => (files, some (fail e ""))
  | .ok o =>
    match Process.Ending.failure o.ending with
    | some e => (o.files, some (fail e (Blank.trim o.combined)))
    | none => (o.files, none)

def joinPath (a b : String) : String := if a.isEmpty then b else a ++ "/" ++ b

/-- An entry of a directory: its name and whether it is a directory. -/
structure DirEntry where
  name : String
  isDir : Bool
  deriving Repr, Inhabited

structure Schedule where
  dir : String
  blocks : List SpeakerId
  block : Nat
  rng : Random.Rng
  /-- The idle clips of each juror, sorted. -/
  idle : List (SpeakerId × List String)
  deriving Inhabited

def idleDir (dir : String) (id : SpeakerId) : String := joinPath (joinPath dir "idle") id

/-- Juror `j`'s idle clips, sorted: the `.mp4` files that `listing` shows in its
idle directory under `dir`. -/
def idleClips (dir : String) (listing : SpeakerId → Option (List DirEntry)) (j : Juror) :
    Except Fault (SpeakerId × List String) := do
  let d := idleDir dir j.id
  match listing j.id with
  | none => throw (.plain ("idle clips for " ++ j.id ++ ": open " ++ d ++ ": no such file or directory"))
  | some entries =>
    let clips := (entries.filter fun e => !e.isDir && e.name.endsWith ".mp4").map fun e => joinPath d e.name
    if clips.isEmpty then throw (.plain ("no idle clips for " ++ j.id ++ " in " ++ d))
    pure (j.id, clips.mergeSort fun a b => decide (a ≤ b))

/-- A schedule over the clips under `dir`; `listing` gives each juror's idle
directory, if it exists. Every juror needs an idle clip. -/
def Schedule.create (dir : String) (blocks : List SpeakerId) (seed : Int)
    (listing : SpeakerId → Option (List DirEntry)) : Except Fault Schedule := do
  let idle ← Juror.all.mapM (idleClips dir listing)
  pure { dir := dir, blocks := blocks, block := 0, rng := Random.Rng.seeded seed, idle := idle }

namespace Schedule

def active (s : Schedule) : SpeakerId := s.blocks.getD s.block SpeakerId.none

def activeClip (s : Schedule) (i : Nat) : String := joinPath s.dir (toString (i + 1) ++ ".mp4")

/-- Adds juror `j`'s clip: the active clip for the active speaker, otherwise an
idle clip of its own drawn at random. -/
def pick (s : Schedule) (active : SpeakerId) (acc : List (SpeakerId × String) × Random.Rng) (j : Juror) :
    List (SpeakerId × String) × Random.Rng :=
  if j.id == active then (acc.1 ++ [(j.id, s.activeClip s.block)], acc.2)
  else
    let clips := ((s.idle.find? (·.1 == j.id)).map (·.2)).getD []
    let (k, rng) := acc.2.intn clips.length
    (acc.1 ++ [(j.id, clips.getD k "")], rng)

/-- The clip every juror plays in the current block; each idle juror's clip is
drawn in seating order. -/
def current (s : Schedule) : List (SpeakerId × String) × Schedule :=
  let (clips, rng) := Juror.all.foldl (s.pick s.active) ([], s.rng)
  (clips, { s with rng := rng })

/-- Moves to the next block; false once past the last. -/
def advance (s : Schedule) : Bool × Schedule :=
  if s.block ≥ s.blocks.length then (false, s)
  else
    let s := { s with block := s.block + 1 }
    (s.block < s.blocks.length, s)

end Schedule

end Playback
end JuryCaptions
