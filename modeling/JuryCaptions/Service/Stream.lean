import JuryCaptions.Service.Scene
import JuryCaptions.Caption.Stream
import JuryCaptions.Focus.Tracker
/-!
Driving the caption stream step by step: each step changes the caption, the
focus, the writer or the recorder, then the stream makes one pass. A failed
write or a cancel ends it. A failing recorder keeps what it is given, and the
failure is logged as a warning.
-/

namespace JuryCaptions
namespace Service

structure StreamBench where
  stream : CaptionStream := {}
  caption : Option Caption := none
  tracker : Focus.Tracker := {}
  writeFailure : Option String := none
  recorderFailure : Option String := none
  stopped : Bool := false

/-- One pass of the stream on the bench: the frames written, the messages
recorded, the logs and the failure that ended the stream. -/
def StreamBench.pass (b : StreamBench) (limit : Nat) :
    StreamBench × List String × List CaptionMessage × List LogRecord × Option Fault :=
  match b.stream.pass b.caption b.tracker.current limit b.writeFailure with
  | (s, .idle) => ({ b with stream := s }, [], [], [], none)
  | (s, .failed f) => ({ b with stream := s }, [], [], [], some f)
  | (s, .sent msg body) =>
    let logs := match b.recorderFailure with
      | some m => [{ level := .warn, msg := "Failed to record caption", attrs := [("error", .str m)] }]
      | none => []
    ({ b with stream := s }, [body], [msg], logs, none)

def streamStep (limit : Nat) (b : StreamBench) (op : Json) : Handled (StreamBench × Json) := do
  if b.stopped then return (b, .obj [("stopped", .bool true)])
  let act ← Req.str op "do"
  let (b, changed, cancelled) ← match act with
    | "caption" => do
      let c ← Req.caption op "caption"
      pure ({ b with caption := some c }, none, false)
    | "focus" => do
      let id ← Req.str op "id"
      let (t, changed) := b.tracker.set id
      pure ({ b with tracker := t }, some changed, false)
    | "fail" => do
      let m ← Req.str op "message"
      pure ({ b with writeFailure := some m }, none, false)
    | "recover" => pure ({ b with writeFailure := none }, none, false)
    | "recorder_fail" => do
      let m ← Req.str op "message"
      pure ({ b with recorderFailure := some m }, none, false)
    | "noop" => pure (b, none, false)
    | "cancel" => pure (b, none, true)
    | other => throw (unknown "streamer op" other)
  let (b, sent, recorded, logs, failure) := b.pass limit
  -- a cancel also wakes the loop for its pass; the flush on the way out follows
  let (b, sent, recorded, logs, failure) :=
    if cancelled && failure.isNone then
      let (b', sent', recorded', logs', failure') := b.pass limit
      (b', sent ++ sent', recorded ++ recorded', logs ++ logs', failure')
    else (b, sent, recorded, logs, failure)
  let done := cancelled || failure.isSome
  let members := (match changed with
      | some c => [("changed", Json.bool c)]
      | none => []) ++
    [("sent", .arr (sent.map Json.str)), ("count", .nat b.stream.count),
     ("recorded", .arr (recorded.map CaptionMessage.toJson)), ("logs", .arr (logs.map logJson))] ++
    (if done then [("done", .bool true)] ++ Json.optField "error" (failure.map faultJson) else [])
  pure ({ b with stopped := done }, .obj members)

/-- Steps a caption stream against a stepped caption source and focus tracker. -/
def streamerOp (r : Json) : Handled Json := do
  let limit ← Req.int r "max"
  let ops ← Req.list r "ops"
  let (_, steps) ← ops.foldlM (fun (acc : StreamBench × List Json) op => do
    let (b, j) ← streamStep (Frame.limitOf limit) acc.1 op
    pure (b, acc.2 ++ [j])) ({}, [])
  pure (answer [("steps", .arr steps)])

/-- Plays a caption timeline from the Unix epoch, so that every caption is due,
with a second listener that notes each text. -/
def playerOp (r : Json) : Handled Json := do
  let captions ← Req.captions r "captions"
  let isCancelled ← Req.bool r "cancelled"
  let (emitted, failure) := Player.play captions isCancelled
  let heard := emitted.flatMap fun c => [captionJson c, .str ("second:" ++ c.text)]
  pure (answer ([("len", .nat captions.length), ("current_before", .bool false),
    ("emitted", .arr heard),
    ("current", match Player.current emitted with
      | some c => captionJson c
      | none => .null),
    ("changed_closed", .bool !emitted.isEmpty)] ++ Json.optField "error" (failure.map faultJson)))

end Service
end JuryCaptions
