import JuryCaptions.Log
import JuryCaptions.Fault
import JuryCaptions.Json.Basic
/-!
Routing input commands to handlers.

Registering replaces a command's handler. A plain handler answers when
dispatched; a buffered one has a bounded queue and one worker, answering
`queued` or `queue full`. After closing, queues are drained and dispatches
fail with `dispatcher closed`.
-/

namespace JuryCaptions
namespace Dispatch

structure Event where
  command : String
  args : List String
  deriving Repr, Inhabited

def Event.arg (e : Event) (i : Int) : String :=
  if i < 0 then "" else e.args.getD i.toNat ""

inductive Behaviour where
  | echo
  | fail (message : String)
  | arg (index : Int)
  | gated
  deriving Repr, Inhabited

structure Options where
  buffer : Nat := 0
  blocking : Bool := false
  logged : Bool := false
  serialized : Bool := false
  deriving Repr, Inhabited

/-- A registered handler: its behaviour, options, and the queue it feeds when buffered. -/
structure Registration where
  command : String
  behaviour : Behaviour
  options : Options
  queue : Option Nat
  deriving Repr, Inhabited

/-- The queue of a buffered handler and the event its worker waits on, if any. -/
structure Queue where
  command : String
  behaviour : Behaviour
  logged : Bool
  capacity : Nat
  pending : List Event := []
  waiting : Option Event := none
  deriving Repr, Inhabited

/-- The whole state of a dispatcher and its handlers. -/
structure Dispatcher where
  registrations : List Registration := []
  queues : List Queue := []
  closed : Bool := false
  /-- Releases not yet used, by command. -/
  gates : List (String × Nat) := []
  gatesOpen : Bool := false
  /-- Arguments of gated starts not yet awaited, by command. -/
  starts : List (String × List (List String)) := []
  /-- Arguments of every handled event, by command in order of first use. -/
  handled : List (String × List (List String)) := []
  logs : List LogRecord := []
  deriving Repr, Inhabited

def pushAt {α : Type} (m : List (String × List α)) (k : String) (a : α) : List (String × List α) :=
  if m.any (·.1 == k) then m.map fun (k', xs) => if k' == k then (k', xs ++ [a]) else (k', xs)
  else m ++ [(k, [a])]

abbrev Outcome := Except Fault Json

def closedOutcome : Outcome := .error ⟨.closed, "dispatcher closed"⟩

def unknownOutcome (cmd : String) : Outcome := .error (.plain ("unknown command: " ++ cmd))

def queueFullOutcome (cmd : String) : Outcome := .error (.plain ("queue full: " ++ cmd))

def queuedOutcome : Outcome := .ok (.str "queued")

namespace Dispatcher

def log (d : Dispatcher) (r : LogRecord) : Dispatcher := { d with logs := d.logs ++ [r] }

def tokens (d : Dispatcher) (cmd : String) : Nat :=
  ((d.gates.find? (·.1 == cmd)).map (·.2)).getD 0

def setTokens (d : Dispatcher) (cmd : String) (n : Nat) : Dispatcher :=
  { d with gates := (d.gates.filter (·.1 != cmd)) ++ [(cmd, n)] }

def outcome (b : Behaviour) (e : Event) : Outcome :=
  match b with
  | .echo => .ok (.str (" ".intercalate e.args))
  | .fail m => .error (.plain m)
  | .arg i => .ok (.str (e.arg i))
  | .gated => .ok .null

/-- Starts handling an event: records it, logs its start, and for a gated
behaviour announces the start. -/
def start (d : Dispatcher) (cmd : String) (b : Behaviour) (logged : Bool) (e : Event) : Dispatcher :=
  let d := { d with handled := pushAt d.handled cmd e.args }
  let d := if logged then d.log ⟨.debug, "handling event", [("command", .str cmd), ("args", .nat e.args.length)]⟩ else d
  match b with
  | .gated => { d with starts := pushAt d.starts cmd e.args }
  | _ => d

def finish (d : Dispatcher) (cmd : String) (b : Behaviour) (logged buffered : Bool) (e : Event) :
    Dispatcher × Outcome :=
  let out := outcome b e
  let d := match out, logged with
    | .error f, true => d.log ⟨.error, "event failed", [("command", .str cmd), ("error", .str f.message)]⟩
    | .ok _, true => d.log ⟨.debug, "event complete", [("command", .str cmd)]⟩
    | _, false => d
  let d := match out, buffered with
    | .error f, true => d.log ⟨.debug, "buffered event failed", [("command", .str cmd), ("error", .str f.message)]⟩
    | _, _ => d
  (d, out)

def pass (d : Dispatcher) (cmd : String) : Option Dispatcher :=
  if d.gatesOpen then some d
  else
    let n := d.tokens cmd
    if n > 0 then some (d.setTokens cmd (n - 1)) else none

/-- Lets the worker of queue `i` take events while it is free, with `fuel`
bounding the events taken. -/
def pump (d : Dispatcher) (i : Nat) : Nat → Dispatcher
  | 0 => d
  | fuel + 1 =>
    match d.queues[i]? with
    | none => d
    | some q =>
      match q.waiting with
      | some e =>
        -- a gated event waits for its release
        match d.pass q.command with
        | none => d
        | some d =>
          let (d, _) := d.finish q.command q.behaviour q.logged true e
          let d := { d with queues := d.queues.set i { q with waiting := none } }
          pump d i fuel
      | none =>
        match q.pending with
        | [] => d
        | e :: rest =>
          let d := { d with queues := d.queues.set i { q with pending := rest } }
          let d := d.start q.command q.behaviour q.logged e
          match q.behaviour with
          | .gated =>
            let d := { d with queues := d.queues.modify i fun q => { q with waiting := some e } }
            pump d i fuel
          | _ =>
            let (d, _) := d.finish q.command q.behaviour q.logged true e
            pump d i fuel

def pumpAll (d : Dispatcher) : Dispatcher :=
  let bound := d.queues.foldl (fun n q => n + q.pending.length + 1) 1
  (List.range d.queues.length).foldl (fun d i => d.pump i bound) d

/-- Registers a handler, replacing any earlier one for the command; a buffered
handler gets a new queue. -/
def register (d : Dispatcher) (cmd : String) (b : Behaviour) (o : Options) : Dispatcher :=
  let (d, queue) := if o.buffer > 0 then
      ({ d with queues := d.queues ++ [{ command := cmd, behaviour := b, logged := o.logged, capacity := o.buffer }] },
        some d.queues.length)
    else (d, none)
  let reg : Registration := ⟨cmd, b, o, queue⟩
  { d with registrations := (d.registrations.filter (·.command != cmd)) ++ [reg] }

def has (d : Dispatcher) (cmd : String) : Bool := d.registrations.any (·.command == cmd)

def dispatch (d : Dispatcher) (e : Event) : Dispatcher × Outcome :=
  if d.closed then (d, closedOutcome)
  else match d.registrations.find? (·.command == e.command) with
    | none => (d, unknownOutcome e.command)
    | some reg =>
      match reg.queue with
      | none =>
        let d := d.start e.command reg.behaviour reg.options.logged e
        d.finish e.command reg.behaviour reg.options.logged false e
      | some i =>
        match d.queues[i]? with
        | none => (d, queueFullOutcome e.command)
        | some q =>
          if q.pending.length < q.capacity || reg.options.blocking then
            let d := { d with queues := d.queues.set i { q with pending := q.pending ++ [e] } }
            (d.pump i (q.pending.length + 2), queuedOutcome)
          else (d, queueFullOutcome e.command)

def release (d : Dispatcher) (cmd : String) (count : Nat) : Dispatcher :=
  (d.setTokens cmd (d.tokens cmd + count)).pumpAll

def awaitStart (d : Dispatcher) (cmd : String) : Dispatcher × Option (List String) :=
  match d.starts.find? (·.1 == cmd) with
  | some (_, a :: rest) =>
    ({ d with starts := d.starts.map fun (k, xs) => if k == cmd then (k, rest) else (k, xs) }, some a)
  | _ => (d, none)

def close (d : Dispatcher) : Dispatcher :=
  if d.closed then d
  else ({ d with gatesOpen := true, closed := true }).pumpAll

end Dispatcher
end Dispatch
end JuryCaptions
