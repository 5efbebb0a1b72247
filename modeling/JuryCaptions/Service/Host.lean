import JuryCaptions.Service.Scene
import JuryCaptions.Host.Message
import JuryCaptions.Input.KeyMap
import JuryCaptions.Dispatch.Basic
/-!
Operations on envelopes, host input, key tables and the command dispatcher.
-/

namespace JuryCaptions
namespace Service

/-- A time member of a request; empty is the zero instant. -/
def Req.time (r : Json) (key : String) : Handled Instant := do
  let s ← Req.str r key
  if s.isEmpty then pure Instant.zero
  else match Instant.parse s with
    | some t => pure t
    | none => .error (fieldError key "an RFC 3339 time")

def sessionOf (j : Json) : Handled Session := do
  let id ← Req.int j "id"
  let uuid ← Req.str j "uuid"
  let method ← Req.int j "rendering_method"
  let captionsFile ← Req.str j "captions_file"
  let focusSource ← Req.str j "focus_source"
  let clientAddr ← Req.str j "client_addr"
  let startTime ← Req.time j "start_time"
  let endTime ← Req.time j "end_time"
  pure { id := id.toNat, uuid, method := ⟨method⟩, captionsFile, focusSource, clientAddr, startTime, endTime }

def payloadOf (kind : String) (p : Json) : Handled (Option (Except String Json)) :=
  match kind with
  | "none" | "" => pure none
  | "key" => do pure (some (.ok (.obj [("key", .str (← Req.str p "key"))])))
  | "click" | "gone" => do pure (some (.ok (.obj [("speaker", .str (← Req.str p "speaker"))])))
  | "position" => do
    let speaker ← Req.str p "speaker"
    let l ← Req.vec3 p "local"
    let par ← Req.vec3 p "parent"
    pure (some do pure (.obj [("speaker", .str speaker), ("local", ← Host.vecDoc l), ("parent", ← Host.vecDoc par)]))
  | "camera" => do
    let pos ← Req.vec3 p "position"
    pure (some do pure (.obj [("position", ← Host.vecDoc pos)]))
  | "session" => do
    let s ← sessionOf p
    pure (some (.ok (.obj [("session", Host.sessionDoc s)])))
  | "caption_message" => do
    let m ← Req.message p
    pure (some (.ok m.toJson))
  | "patch" => do
    let entity ← Req.str p "entity"
    let attr ← Req.str p "attribute"
    let v ← sceneValueOf (← Req.obj p "value")
    pure (some (Host.patchDoc ⟨entity, attr, v⟩))
  | other => .error (unknown "payload kind" other)

def envelopeOp (r : Json) : Handled Json := do
  let type ← Req.str r "type"
  let kind ← Req.str r "payload_kind"
  let p ← Req.obj r "payload"
  let payload ← payloadOf kind p
  pure (resultJson (fun s => answer [("json", .str s)]) (Host.envelope type payload))

/-- The payload text of a host message request: given raw, or written from a document. -/
def Req.payloadText (r : Json) : Handled String :=
  if r.has "payload_raw" then Req.str r "payload_raw"
  else match r.field? "payload" with
    | none => pure ""
    | some j =>
      match Json.normalizeAny j with
      | .ok d => pure (Json.compact d)
      | .error _ => pure (Json.compact j)

def eventJson (e : Dispatch.Event) : Json :=
  answer [("command", .str e.command), ("args", Json.strs e.args)]

def hostEventOp (r : Json) : Handled Json := do
  let type ← Req.str r "type"
  let payload ← Req.payloadText r
  pure (resultJson eventJson (Host.toCommand type payload))

def keymapOp (r : Json) : Handled Json := do
  let dflt ← Req.bool r "default"
  let raw ← Req.obj r "raw"
  let lookups ← Req.strs r "lookups"
  let table ← Req.table raw "raw"
  let km := if dflt then .ok KeyMap.default else KeyMap.ofTable table
  pure (match km with
    | .error (.duplicate ..) => answer [("error", .str "error")]
    | .error e => faultJson e.toFault
    | .ok km => answer [("keys", Json.strs km.keys),
        ("bindings", .obj ((km.bindings.mergeSort fun a b => decide (a.1 ≤ b.1)).map fun (k, v) => (k, .str v))),
        ("lookups", .arr (lookups.map fun k => match km.lookup k with
          | some id => answer [("key", .str k), ("id", .str id), ("ok", .bool true)]
          | none => answer [("key", .str k), ("id", .str ""), ("ok", .bool false)]))])

def dispatcherStep (d : Dispatch.Dispatcher) (step : Json) : Handled (Dispatch.Dispatcher × Json) := do
  let act ← Req.str step "do"
  let cmd ← Req.str step "command"
  match act with
  | "register" => do
    let kind ← Req.str step "kind"
    let buffer ← Req.int step "buffer"
    let blocking ← Req.bool step "blocking"
    let logged ← Req.bool step "logged"
    let serialized ← Req.bool step "serialized"
    let message ← Req.str step "message"
    let index ← Req.int step "index"
    let b ← match kind with
      | "echo" => pure Dispatch.Behaviour.echo
      | "error" => pure (.fail message)
      | "arg" => pure (.arg index)
      | "gated" => pure .gated
      | other => .error (unknown "handler kind" other)
    pure (d.register cmd b { buffer := buffer.toNat, blocking, logged, serialized }, answer [])
  | "dispatch" => do
    let args ← Req.strs step "args"
    let (d', out) := d.dispatch ⟨cmd, args⟩
    pure (d', match out with
      | .ok v => answer [("result", v)]
      | .error e => answer [("error", faultJson e)])
  | "await" => do
    let (d', s) := d.awaitStart cmd
    pure (d', answer [("started", match s with
      | some a => Json.strs a
      | none => .null)])
  | "release" => do
    let count ← Req.intD step "count" 1
    pure (d.release cmd count.toNat, answer [])
  | "has" => pure (d, answer [("has", .bool (d.has cmd))])
  | "close" => pure (d.close, answer [])
  | other => .error (unknown "dispatcher op" other)

/-- Steps on a command dispatcher, with what every command handled and logged. -/
def dispatcherOp (r : Json) : Handled Json := do
  let ops ← Req.list r "ops"
  let (d, outs) ← runSteps dispatcherStep {} ops
  let d := d.close
  let byCommand := d.logs.foldl (fun acc (l : LogRecord) =>
    let cmd := match l.attrs.find? (·.1 == "command") with
      | some (_, .str c) => c
      | _ => ""
    Dispatch.pushAt acc cmd (logJson l)) []
  let sorted {α : Type} (m : List (String × α)) := m.mergeSort fun a b => decide (a.1 ≤ b.1)
  pure (answer [("steps", .arr outs),
    ("handled", .obj ((sorted d.handled).map fun (k, xs) => (k, .arr (xs.map Json.strs)))),
    ("logs", .obj ((sorted byCommand).map fun (k, xs) => (k, .arr xs)))])

end Service
end JuryCaptions
