import JuryCaptions.Dispatch.Basic
/-!
The dispatcher as its goroutines use it, one step at a time. A dispatch reads
under the read lock whether it is closed and its handler; a buffered handler
takes the read lock again to queue, a blocking one waiting for room. `Close`
and `Register` take the write lock. A step that cannot happen gives `none`.
-/

namespace JuryCaptions
namespace Dispatch

/-- A buffered handler's channel, and what its worker has handled. -/
structure Channel where
  command : String
  capacity : Nat
  blocking : Bool
  /-- The tickets of the events waiting in the channel, oldest first. -/
  waiting : List Nat := []
  /-- Whether `Close` closed the channel. -/
  shut : Bool := false
  /-- The tickets of every event put in, in order. -/
  taken : List Nat := []
  /-- The tickets of the events the worker handled, in order. -/
  handled : List Nat := []
  deriving Repr, Inhabited

inductive Progress where
  /-- It found a buffered handler and is about to put its event in the channel. -/
  | offering (channel : Nat)
  /-- A blocking send waits for room in the channel, holding the read lock. -/
  | blocked (channel : Nat)
  /-- A plain handler runs. -/
  | running (b : Behaviour)
  /-- The dispatch returned. -/
  | answered (out : Outcome)
  deriving Repr, Inhabited

def Progress.holdsReadLock : Progress → Bool
  | .blocked _ => true
  | _ => false

/-- A send on a closed channel: the program would crash. -/
def closedChannelCrash : Outcome := .error ⟨.crash, "send on closed channel"⟩

/-- The dispatcher with its channels, every dispatch so far, and the `Close`
calls waiting for the workers. -/
structure Hub where
  registrations : List Registration := []
  channels : List Channel := []
  closed : Bool := false
  /-- Every dispatch, its ticket being its place: its event and how far it has gone. -/
  calls : List (Event × Progress) := []
  /-- How many `Close` calls wait for the workers. -/
  closers : Nat := 0
  deriving Inhabited

inductive HubStep where
  /-- `Register` gives a command a handler. -/
  | register (cmd : String) (b : Behaviour) (o : Options)
  /-- A goroutine starts dispatching an event; it gets the next ticket. -/
  | dispatch (e : Event)
  /-- A dispatch bound for a channel puts its event in, starts waiting for room,
  or drops it. -/
  | offer (ticket : Nat)
  /-- A plain handler returns. -/
  | finish (ticket : Nat)
  /-- A worker takes the oldest event of its channel and handles it. -/
  | work (channel : Nat)
  /-- `Close` takes the write lock. -/
  | close
  /-- A waiting `Close` finds every worker done and returns. -/
  | closeReturn

namespace Hub

def readLocked (h : Hub) : Bool := h.calls.any (·.2.holdsReadLock)

def advance (h : Hub) (t : Nat) (e : Event) (p : Progress) : Hub :=
  { h with calls := h.calls.set t (e, p) }

def putIn (h : Hub) (i t : Nat) (c : Channel) : Hub :=
  { h with channels := h.channels.set i { c with waiting := c.waiting ++ [t], taken := c.taken ++ [t] } }

def route (h : Hub) (e : Event) : Progress :=
  if h.closed then .answered closedOutcome
  else match h.registrations.find? (·.command == e.command) with
    | none => .answered (unknownOutcome e.command)
    | some reg =>
      match reg.queue with
      | none => .running reg.behaviour
      | some i => .offering i

/-- A dispatch bound for channel `i` tries to put its event in. -/
def offerTo (h : Hub) (t : Nat) (e : Event) (i : Nat) (c : Channel) : Hub :=
  if h.closed then h.advance t e (.answered closedOutcome)
  else if c.shut then h.advance t e (.answered closedChannelCrash)
  else if c.waiting.length < c.capacity then (h.putIn i t c).advance t e (.answered queuedOutcome)
  else if c.blocking then h.advance t e (.blocked i)
  else h.advance t e (.answered (queueFullOutcome c.command))

/-- The hub after a step, or `none` when the step cannot happen now. -/
def step (h : Hub) : HubStep → Option Hub
  | .register cmd b o =>
    if h.readLocked then none
    else
      let (channels, queue) :=
        if o.buffer > 0 then
          (h.channels ++ [{ command := cmd, capacity := o.buffer, blocking := o.blocking }],
            some h.channels.length)
        else (h.channels, none)
      some { h with channels := channels,
                    registrations := (h.registrations.filter (·.command != cmd)) ++ [⟨cmd, b, o, queue⟩] }
  | .dispatch e => some { h with calls := h.calls ++ [(e, h.route e)] }
  | .offer t =>
    match h.calls[t]? with
    | some (e, .offering i) => h.channels[i]?.map (h.offerTo t e i)
    | some (e, .blocked i) =>
      match h.channels[i]? with
      | some c =>
        if c.waiting.length < c.capacity then some ((h.putIn i t c).advance t e (.answered queuedOutcome))
        else none
      | none => none
    | _ => none
  | .finish t =>
    match h.calls[t]? with
    | some (e, .running b) => some (h.advance t e (.answered (Dispatcher.outcome b e)))
    | _ => none
  | .work i =>
    match h.channels[i]? with
    | some c =>
      match c.waiting with
      | t :: rest => some { h with channels := h.channels.set i { c with waiting := rest, handled := c.handled ++ [t] } }
      | [] => none
    | none => none
  | .close =>
    if h.readLocked then none
    else if h.closed then some h
    else some { h with closed := true, channels := h.channels.map ({ · with shut := true }),
                       closers := h.closers + 1 }
  | .closeReturn =>
    if 0 < h.closers ∧ h.channels.all (fun c => c.shut && c.waiting.isEmpty) then
      some { h with closers := h.closers - 1 }
    else none

/-- The hub after a sequence of steps, or `none` when one of them cannot happen
when its turn comes. -/
def run (h : Hub) : List HubStep → Option Hub
  | [] => some h
  | s :: ss => (h.step s).bind fun h' => run h' ss

end Hub

end Dispatch
end JuryCaptions
