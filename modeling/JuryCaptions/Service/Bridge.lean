import JuryCaptions.Service.Scene
import JuryCaptions.Bridge.Endpoint
/-!
The bridge endpoint of a scene store, driven by hosts. Each handler notes its
event, fails when asked, or writes its arguments as entity `input`; no address
can be reached here.
-/

namespace JuryCaptions
namespace Service

open Bridge

def bridgeReachable : Bool := false

def bridgeDialFailure : String := "dial tcp <addr>: connect: network is unreachable"

/-- The state of a bridge run: the store, the endpoint, the handler's
settings, and what the current step produced. -/
structure BridgeRun where
  store : SceneStore
  endpoint : Endpoint
  failing : List (String × String)
  echo : Bool
  handled : List Dispatch.Event := []
  logs : List LogRecord := []

/-- The key a driver's own barrier carries; its events are not noted. -/
def barrierKey : String := "\x00barrier"

namespace BridgeRun

/-- Writes to the store; a change is pushed to the hosts. -/
def write (b : BridgeRun) (entity attr : String) (v : SceneValue) : BridgeRun × Bool :=
  let (s, p) := b.store.set entity attr v
  match p with
  | none => ({ b with store := s }, false)
  | some p =>
    let (e, logs) := b.endpoint.push p
    ({ b with store := s, endpoint := e, logs := b.logs ++ logs }, true)

def handle (b : BridgeRun) (ev : Dispatch.Event) (type : String) : BridgeRun :=
  let b := { b with handled := b.handled ++ [ev] }
  match b.failing.find? (·.1 == ev.command) with
  | some (_, msg) => { b with logs := b.logs ++ [Endpoint.rejected type (.plain msg)] }
  | none => if b.echo then (b.write "input" ev.command (.text (" ".intercalate ev.args))).1 else b

def receive (b : BridgeRun) (text : String) : BridgeRun :=
  match Endpoint.read text with
  | .error log => { b with logs := b.logs ++ [log] }
  | .ok ev =>
    let type := match readEnvelope text with
      | .ok (t, _) => t
      | .error _ => ""
    b.handle ev type

end BridgeRun

def sentText (step : Json) : Handled String := do
  if step.has "raw" then Req.str step "raw"
  else
    let type ← Req.str step "type"
    let payload ← if step.has "payload_raw" then do
        let p ← Req.str step "payload_raw"
        pure (some p)
      else match step.field? "payload" with
        | some p => pure (some (Json.render false p))
        | none => pure none
    pure ("\x7b\"type\":" ++ Json.quote false type ++
      (match payload with
        | some p => ",\"payload\":" ++ p
        | none => "") ++ "\x7d")

/-- A patch of a request, as `entity`, `attr` and `value`. -/
def patchOf (j : Json) : Handled Patch := do
  let entity ← Req.str j "entity"
  let attr ← Req.str j "attr"
  let value ← sceneValueOf (← Req.obj j "value")
  pure { entity := entity, attr := attr, value := value }

def needHost (b : BridgeRun) (step : Json) : Handled String := do
  let host ← Req.str step "host"
  if b.endpoint.connected host then pure host
  else throw (badInput ("no connected host " ++ Quote.quoted host))

/-- One step of a bridge run: the run after and what the step reports beyond
the messages, events and logs every step reports. -/
def bridgeAct (b : BridgeRun) (step : Json) : Handled (BridgeRun × List (String × Json)) := do
  let act ← Req.str step "do"
  match act with
  | "connect" =>
    let host ← Req.str step "host"
    if !bridgeReachable then pure (b, [("dial_error", .str bridgeDialFailure)])
    else
      let (e, joined) := b.endpoint.connect host b.store.snapshot
      pure ({ b with endpoint := e }, if joined then [] else [("error", .str droppedError)])
  | "send" =>
    let _ ← needHost b step
    let text ← sentText step
    pure (b.receive text, [])
  | "set" =>
    let p ← patchOf step
    let (b, changed) := b.write p.entity p.attr p.value
    pure (b, [("changed", .bool changed)])
  | "push" =>
    let p ← patchOf step
    let (e, logs) := b.endpoint.push p
    pure ({ b with endpoint := e, logs := b.logs ++ logs }, [])
  | "disconnect" =>
    let host ← needHost b step
    let code ← Req.intD step "code" 1000
    let reason ← Req.str step "reason"
    let abrupt ← Req.bool step "abrupt"
    let (e, logs) := b.endpoint.disconnect host (if abrupt then .drop else .frame code.toNat reason)
    pure ({ b with endpoint := e, logs := b.logs ++ logs }, [])
  | "clients" => pure (b, [("clients", .nat b.endpoint.clients.length)])
  | "close" =>
    let (e, hosts) := b.endpoint.close
    pure ({ b with endpoint := e }, ("clients", .nat e.clients.length) ::
      hosts.map fun h => ("closed_" ++ h, .str (closeError 1000 "")))
  | "http" =>
    let path ← Req.str step "path"
    if !bridgeReachable then pure (b, [("http_error", .str bridgeDialFailure)])
    else
      let (status, body, logs) := Endpoint.get path
      pure ({ b with logs := b.logs ++ logs }, [("status", .nat status), ("body", .str body)])
  | other => throw (unknown "bridge op" other)

def bridgeStep (b : BridgeRun) (step : Json) : Handled (BridgeRun × Json) := do
  let (b, extra) ← bridgeAct { b with handled := [], logs := [] } step
  let e := b.endpoint.drain
  let hosts := e.clients.map (·.host)
  let (e, received) := hosts.foldl (fun (acc : Endpoint × List (String × Json)) h =>
    let (e, sent) := acc.1.takeSent h
    (e, acc.2 ++ [(h, Json.strs sent)])) (e, [])
  let handled := b.handled.filter fun ev => ev.args != [barrierKey]
  pure ({ b with endpoint := e }, answer (extra ++ [("received", .obj received),
    ("handled", .arr (handled.map fun ev => .obj [("command", .str ev.command), ("args", Json.strs ev.args)])),
    ("logs", .arr (b.logs.map logJson))]))

def bridgeOp (r : Json) : Handled Json := do
  let initial ← Req.list r "initial"
  let seeds ← initial.mapM patchOf
  let queueSize ← Req.int r "queue_size"
  if 0 < queueSize && queueSize < 4 then throw (badInput "queue_size must be 0 or at least 4")
  let noSnapshot ← Req.bool r "no_snapshot"
  let echo ← Req.bool r "echo_to_store"
  let failing ← Req.table (← Req.obj r "fail") "fail"
  let ops ← Req.list r "ops"
  let store := seeds.foldl (fun s p => (s.set p.entity p.attr p.value).1) ({} : SceneStore)
  let run : BridgeRun :=
    { store := store, endpoint := { queueSize := queueSizeOf queueSize, greets := !noSnapshot },
      failing := failing, echo := echo }
  let (_, steps) ← runSteps bridgeStep run ops
  pure (answer [("steps", .arr steps)])

end Service
end JuryCaptions
