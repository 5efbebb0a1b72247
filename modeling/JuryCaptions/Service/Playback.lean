import JuryCaptions.Service.Captions
import JuryCaptions.Playback.Schedule
/-!
Operations on the pure parts of video playback: the blocks of a caption
script, the arguments of a cut, and stepping a clip schedule.
-/

namespace JuryCaptions
namespace Service

open Playback

def blocksOp (r : Json) : Handled Json := do
  let captions ← Req.captions r "captions"
  pure (answer [("blocks", .arr ((blocks captions).map Json.str))])

def cutArgsOp (r : Json) : Handled Json := do
  let input ← Req.str r "in"
  let output ← Req.str r "out"
  let start ← Req.int r "from_ns"
  let stop ← Req.int r "to_ns"
  pure (answer [("args", .arr ((cutArgs input output start stop).map Json.str))])

def scratchDir : String := "<dir>"

def Req.lists (r : Json) (key : String) : Handled (List (String × List String)) := do
  let o ← Req.obj r key
  match o with
  | .obj ms => (Json.lastOfEach ms).mapM fun (k, _) => do
      let xs ← Req.strs o k
      pure (k, xs)
  | _ => pure []

def scheduleStep (s : Schedule) (op : String) : Handled (Schedule × Json) :=
  match op with
  | "current" =>
    let (clips, s) := s.current
    pure (s, .obj [("current", .obj (clips.map fun (k, v) => (k, Json.str v)))])
  | "advance" =>
    let (more, s) := s.advance
    pure (s, .obj [("advance", .bool more)])
  | "active" => pure (s, .obj [("active", .str s.active)])
  | "block" => pure (s, .obj [("block", .nat s.block)])
  | "active_clip" => pure (s, .obj [("active_clip", .str (s.activeClip s.block))])
  | other => throw (unknown "schedule op" other)

def scheduleOp (r : Json) : Handled Json := do
  let seed ← Req.int r "seed"
  let blockIds ← Req.strs r "blocks"
  let idle ← Req.lists r "idle"
  let idleDirs ← Req.lists r "idle_dirs"
  let ops ← Req.strs r "ops"
  if seed = 0 then throw (badInput "seed must be non-zero")
  let listing (id : SpeakerId) : Option (List DirEntry) :=
    let files := (idle.find? (·.1 == id)).map fun (_, ns) => ns.map fun n => { name := n, isDir := false }
    let dirs := (idleDirs.find? (·.1 == id)).map fun (_, ns) => ns.map fun n => { name := n, isDir := true }
    match files, dirs with
    | none, none => none
    | f, d => some (f.getD [] ++ d.getD [])
  match Schedule.create scratchDir blockIds seed listing with
  | .error f => pure (faultJson f)
  | .ok s =>
    let (_, steps) ← ops.foldlM (fun (acc : Schedule × List Json) op => do
      let (s, j) ← scheduleStep acc.1 op
      pure (s, acc.2 ++ [j])) (s, [])
    pure (answer [("steps", .arr steps)])

end Service
end JuryCaptions
