import JuryCaptions.Host.Message
import JuryCaptions.Log
/-!
The WebSocket endpoint of a viewing session.

A connecting host is sent the snapshot first. A message finding a host's queue
full is dropped with a warning; non-envelopes are skipped, failing commands
rejected. Closing drops every host. `/healthcheck` answers `ok`; paths other
than `/ws` are not found.
-/

namespace JuryCaptions
namespace Bridge

def defaultQueueSize : Nat := 256

/-- The queue size an option gives: a positive size, or the default. -/
def queueSizeOf (n : Int) : Nat := if n > 0 then n.toNat else defaultQueueSize

/-- A connected host as the endpoint sees it: the messages queued for it and
those its write loop has sent, in order. -/
structure Client where
  host : String
  queue : List String := []
  sent : List String := []
  /-- How many messages found the queue full. -/
  dropped : Nat := 0
  deriving Repr, Inhabited

def queueFullWarning : LogRecord := ⟨.warn, "Viewer send queue full, dropping message", []⟩

def Client.send (size : Nat) (c : Client) (msg : String) : Client × List LogRecord :=
  if c.queue.length < size then ({ c with queue := c.queue ++ [msg] }, [])
  else ({ c with dropped := c.dropped + 1 }, [queueFullWarning])

def Client.drain (c : Client) : Client := { c with queue := [], sent := c.sent ++ c.queue }

/-- The endpoint: the queue size, whether hosts are greeted with a snapshot,
the connected hosts in the order they came, and whether it was closed. -/
structure Endpoint where
  queueSize : Nat := defaultQueueSize
  greets : Bool := true
  clients : List Client := []
  closed : Bool := false
  deriving Repr, Inhabited

def snapshotMessage (patches : List Patch) : Except Fault String :=
  Host.envelope "snapshot" (some (do pure (.arr (← patches.mapM Host.patchDoc))))

def patchMessage (p : Patch) : Except Fault String := Host.envelope "patch" (some (Host.patchDoc p))

def patchFailure (p : Patch) (f : Fault) : LogRecord :=
  ⟨.error, "Failed to encode patch", [("entity", .str p.entity), ("error", .str f.message)]⟩

def closeCodeText (code : Nat) : String :=
  toString code ++
    match code with
    | 1000 => " (normal)"
    | 1001 => " (going away)"
    | 1002 => " (protocol error)"
    | 1003 => " (unsupported data)"
    | 1005 => " (no status)"
    | 1006 => " (abnormal closure)"
    | 1007 => " (invalid payload data)"
    | 1008 => " (policy violation)"
    | 1009 => " (message too big)"
    | 1010 => " (mandatory extension missing)"
    | 1011 => " (internal server error)"
    | 1015 => " (TLS handshake error)"
    | _ => ""

def closeError (code : Nat) (reason : String) : String :=
  "websocket: close " ++ closeCodeText code ++ (if reason.isEmpty then "" else ": " ++ reason)

def droppedError : String := closeError 1006 "unexpected EOF"

def receivable (code : Nat) : Bool :=
  [1000, 1001, 1002, 1003, 1007, 1008, 1009, 1010, 1011, 1012, 1013].contains code ||
    (3000 ≤ code && code ≤ 4999)

inductive Leaving where
  /-- With a close frame; code 1005 sends a frame without a code. -/
  | frame (code : Nat) (reason : String)
  /-- By dropping the connection. -/
  | drop
  deriving Repr, Inhabited

def Leaving.logs : Leaving → List LogRecord
  | .drop => [⟨.warn, "WebSocket read error", [("error", .str droppedError)]⟩]
  | .frame 1005 _ => [⟨.warn, "WebSocket read error", [("error", .str (closeError 1005 ""))]⟩]
  | .frame code reason =>
    if !receivable code || code == 1000 || code == 1001 then []
    else [⟨.warn, "WebSocket read error", [("error", .str (closeError code reason))]⟩]

/-- An envelope from a host: its type and its payload's text, empty when it
has none. -/
def readEnvelope (text : String) : Except String (String × String) :=
  let shape : Json.Shape := .record "streaming.Envelope" "Envelope" [("type", .text "string")]
  match Json.decodeText text shape, Json.parse text with
  | .ok v, .ok (.obj ms) =>
    let payload := (ms.filter fun (k, _) => k == "payload" || Json.foldKey k == "payload").getLast?
    .ok ((v.get "type").str, (payload.map fun (_, p) => Json.recompact p).getD "")
  | .ok v, _ => .ok ((v.get "type").str, "")
  | .error e, _ => .error e.message

namespace Endpoint

/-- A host connects: it is greeted with the snapshot and joins the broadcast,
unless the endpoint was closed, which refuses it. -/
def connect (e : Endpoint) (host : String) (snapshot : List Patch) : Endpoint × Bool :=
  if e.closed then (e, false)
  else
    let c : Client := { host := host }
    let c := match e.greets, snapshotMessage snapshot with
      | true, .ok msg => (c.send e.queueSize msg).1
      | _, _ => c
    ({ e with clients := e.clients ++ [c] }, true)

/-- Queues a patch for every connected host. A patch that cannot be written is
logged instead. -/
def push (e : Endpoint) (p : Patch) : Endpoint × List LogRecord :=
  match patchMessage p with
  | .error f => (e, [patchFailure p f])
  | .ok msg =>
    let sent := e.clients.map fun c => c.send e.queueSize msg
    ({ e with clients := sent.map (·.1) }, sent.flatMap (·.2))

def drain (e : Endpoint) : Endpoint := { e with clients := e.clients.map Client.drain }

/-- What the messages sent to a host so far are, and the endpoint with them
taken out. -/
def takeSent (e : Endpoint) (host : String) : Endpoint × List String :=
  let sent := ((e.clients.find? (·.host == host)).map (·.sent)).getD []
  ({ e with clients := e.clients.map fun c => if c.host == host then { c with sent := [] } else c }, sent)

def connected (e : Endpoint) (host : String) : Bool := e.clients.any (·.host == host)

/-- Reads a message from a host: the input command it stands for, or the log
record of why it is skipped or rejected. -/
def read (text : String) : Except LogRecord Dispatch.Event :=
  match readEnvelope text with
  | .error _ => .error ⟨.debug, "Malformed viewer message", [("raw", .str text)]⟩
  | .ok (type, payload) =>
    match Host.toCommand type payload with
    | .ok ev => .ok ev
    | .error f => .error ⟨.debug, "Viewer input rejected", [("type", .str type), ("error", .str f.message)]⟩

def rejected (type : String) (f : Fault) : LogRecord :=
  ⟨.debug, "Viewer input rejected", [("type", .str type), ("error", .str f.message)]⟩

def disconnect (e : Endpoint) (host : String) (how : Leaving) : Endpoint × List LogRecord :=
  ({ e with clients := e.clients.filter (·.host != host) }, how.logs)

/-- Closes the endpoint: every host is sent a normal closure and let go. -/
def close (e : Endpoint) : Endpoint × List String :=
  ({ e with closed := true, clients := [] }, e.clients.map (·.host))

/-- The answer to a plain HTTP GET of a path: its status and body, and what is logged. -/
def get (path : String) : Nat × String × List LogRecord :=
  match path with
  | "/healthcheck" => (200, "ok", [])
  | "/ws" =>
    (400, "Bad Request\n", [⟨.warn, "WebSocket upgrade failed", [("error", .str
      "websocket: the client is not using the websocket protocol: 'upgrade' token not found in 'Connection' header")]⟩])
  | _ => (404, "404 page not found\n", [])

end Endpoint

end Bridge
end JuryCaptions
