import JuryCaptions.Bridge.Endpoint
/-!
The endpoint and the scene store as their goroutines use them, one step at a time.

A write stores the value and makes its patch under the store's lock, then pushes
it; writers are serialized, so at most one write is between the two. A
connecting host gets the snapshot and joins the broadcast; a frame finding a
host's queue full is dropped.
-/

namespace JuryCaptions
namespace Bridge

/-- What a host is sent: the scene when it connects, or one patch. -/
inductive Frame where
  | snapshot (patches : List Patch)
  | patch (p : Patch)
  deriving Repr, Inhabited

namespace Frame

def message : Frame → Except Fault String
  | .snapshot ps => snapshotMessage ps
  | .patch p => patchMessage p

def patches : Frame → List Patch
  | .snapshot ps => ps
  | .patch p => [p]

end Frame

structure Link where
  /-- The frames queued for the write loop, oldest first. -/
  queue : List Frame := []
  /-- The frames the write loop sent, in order. -/
  sent : List Frame := []
  /-- Every frame offered to the host, with whether it found room. -/
  offered : List (Frame × Bool) := []
  /-- Whether the host is still connected. -/
  live : Bool := true
  deriving Repr, Inhabited

namespace Link

/-- Offers a frame to a host: it is queued when the queue has room, and dropped
with a warning otherwise. -/
def offer (size : Nat) (l : Link) (f : Frame) : Link × List LogRecord :=
  if l.queue.length < size then ({ l with queue := l.queue ++ [f], offered := l.offered ++ [(f, true)] }, [])
  else ({ l with offered := l.offered ++ [(f, false)] }, [queueFullWarning])

def overflowed (l : Link) : Bool := l.offered.any fun o => !o.2

end Link

/-- The store, the endpoint's settings, and every connection so far. -/
structure Broadcast where
  store : SceneStore := {}
  /-- The patch of the write that stored its value and has not pushed it yet. -/
  pending : Option Patch := none
  queueSize : Nat := defaultQueueSize
  /-- Whether hosts are greeted with a snapshot. -/
  greets : Bool := true
  links : List Link := []
  closed : Bool := false
  logs : List LogRecord := []
  deriving Inhabited

inductive BroadcastStep where
  /-- A writer stores a value, under the store's lock. -/
  | write (entity attr : String) (v : SceneValue)
  /-- The writer pushes the patch of the value it stored. -/
  | push
  /-- A host connects. -/
  | connect
  /-- A host's write loop sends the oldest frame queued for it. -/
  | deliver (link : Nat)
  /-- A host leaves. -/
  | leave (link : Nat)
  /-- The endpoint is closed. -/
  | close
  deriving Repr, Inhabited

namespace Broadcast

def broadcast (b : Broadcast) (f : Frame) : Broadcast :=
  let offers := b.links.map fun l => if l.live then l.offer b.queueSize f else (l, [])
  { b with links := offers.map (·.1), logs := b.logs ++ offers.flatMap (·.2) }

/-- The connection of a new host, greeted with the store's snapshot when the
endpoint greets and the snapshot can be written. -/
def greeting (b : Broadcast) : Link :=
  match b.greets, snapshotMessage b.store.snapshot with
  | true, .ok _ => (({} : Link).offer b.queueSize (.snapshot b.store.snapshot)).1
  | _, _ => {}

/-- The state after a step, or `none` when the step cannot happen now. -/
def step (b : Broadcast) : BroadcastStep → Option Broadcast
  | .write entity attr v =>
    if b.pending.isSome then none
    else
      let (store, p) := b.store.set entity attr v
      some { b with store := store, pending := p }
  | .push =>
    match b.pending with
    | none => none
    | some p =>
      match patchMessage p with
      | .error f => some { b with pending := none, logs := b.logs ++ [patchFailure p f] }
      | .ok _ => some { b.broadcast (.patch p) with pending := none }
  | .connect =>
    if b.closed then some b
    else some { b with links := b.links ++ [b.greeting] }
  | .deliver i =>
    match b.links[i]? with
    | some l =>
      match l.live, l.queue with
      | true, f :: rest => some { b with links := b.links.set i { l with queue := rest, sent := l.sent ++ [f] } }
      | _, _ => none
    | none => none
  | .leave i =>
    match b.links[i]? with
    | some l => if l.live then some { b with links := b.links.set i { l with live := false } } else none
    | none => none
  | .close => some { b with closed := true, links := b.links.map fun l => { l with live := false } }

/-- The state after a sequence of steps, or `none` when one of them cannot
happen when its turn comes. -/
def run (b : Broadcast) : List BroadcastStep → Option Broadcast
  | [] => some b
  | s :: ss => (b.step s).bind fun b' => run b' ss

end Broadcast

end Bridge
end JuryCaptions
