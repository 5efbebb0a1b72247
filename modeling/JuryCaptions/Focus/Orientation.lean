import JuryCaptions.Focus.Sector
import JuryCaptions.Wire.Frame
import JuryCaptions.Caption.Basic
import JuryCaptions.Json.Decode
import JuryCaptions.System.Address
import JuryCaptions.Log
/-!
Focus from a stream of head orientations: each azimuth goes into the moving
window, whose average is the gaze and is classified into the juror in focus.
The stream ends cleanly between frames; a bad frame ends it with a failure.

The window is a moving average over the latest azimuth samples: a ring takes
each sample at `next`, which wraps and marks it full, the evicted sample leaving
the running sum first. Over doubles the sum drifts: an infinite sample, once
evicted, leaves it not a number.
-/

namespace JuryCaptions
namespace Focus

def defaultWindow : Nat := 3000

/-- A ring of samples with its running sum, the slot the next sample goes into,
and whether every slot holds a sample. -/
structure RingWindow (α : Type) where
  slots : List α
  next : Nat := 0
  full : Bool := false
  sum : α
  deriving Repr, Inhabited

namespace RingWindow

variable {α : Type} [Zero α]

/-- The capacity a size gives: a positive size, or the default. -/
def capacityOf (size : Int) : Nat := if size ≤ 0 then defaultWindow else size.toNat

def empty (size : Int) : RingWindow α := { slots := List.replicate (capacityOf size) 0, sum := 0 }

def add [Add α] [Sub α] (w : RingWindow α) (x : α) : RingWindow α :=
  let sum := if w.full then w.sum - w.slots.getD w.next 0 else w.sum
  let wraps := w.next + 1 = w.slots.length
  { slots := w.slots.set w.next x, next := if wraps then 0 else w.next + 1, full := w.full || wraps,
    sum := sum + x }

def size (w : RingWindow α) : Nat := if w.full then w.slots.length else w.next

/-- The mean of the samples held, their count converted by `cast`, or zero with none. -/
def average [Div α] (cast : Nat → α) (w : RingWindow α) : α :=
  if w.size = 0 then 0 else w.sum / cast w.size

end RingWindow

abbrev AzimuthWindow := RingWindow Float

def AzimuthWindow.empty (capacity : Int) : AzimuthWindow := RingWindow.empty capacity

def AzimuthWindow.average (w : AzimuthWindow) : Float := RingWindow.average Nat.toFloat w

/-- What an orientation reader holds: its window, its centre, its sectors and
the latest gaze, if any sample arrived. -/
structure OrientationReader where
  window : AzimuthWindow
  center : Float
  sectors : List Sector
  gaze : Option Gaze := none
  deriving Repr, Inhabited

namespace OrientationReader

/-- Takes one sample: the reader after it, and the juror it puts in focus. -/
def sample (r : OrientationReader) (azimuth : Float) : OrientationReader × SpeakerId :=
  let window : AzimuthWindow := r.window.add azimuth
  let avg := window.average
  ({ r with window := window, gaze := some (Gaze.at avg r.center) }, classify avg r.center r.sectors)

def readBody (body : List UInt8) : Except Fault Orientation :=
  match Orientation.ofBody body with
  | .ok o => .ok o
  | .error e => .error (.plain ("unmarshal frame: " ++ e.message))

/-- Reads a whole stream: the reader after it, each juror emitted with the gaze
at that moment, and the failure that ended the stream, if it did not end cleanly. -/
def readStream (r : OrientationReader) (bs : List UInt8) :
    OrientationReader × List (SpeakerId × Gaze) × Option Fault :=
  match h : Frame.decode Frame.defaultLimit bs with
  | .error f =>
    if f.kind == .endOfStream then (r, [], none) else (r, [], some (f.context "read orientation"))
  | .ok (body, rest) =>
    have := Frame.decode_rest_length h
    match readBody body with
    | .error f => (r, [], some (f.context "read orientation"))
    | .ok o =>
      let (r', id) := r.sample o.azimuth
      let (r'', more, stop) := r'.readStream rest
      (r'', (id, r'.gaze.getD {}) :: more, stop)
termination_by bs.length

inductive Arrival where
  /-- It was cancelled before it started. -/
  | cancelledBefore
  /-- It is cancelled while it waits for the device. -/
  | cancelledWaiting
  /-- A device connects, sends a stream and hangs up. -/
  | device (stream : List UInt8)
  deriving Repr, Inhabited

/-- Listens on an address and reads the device that connects: the reader
after, what was emitted, the log and the failure, if any. -/
def run (r : OrientationReader) (addr : String) (arrival : Arrival) :
    OrientationReader × List (SpeakerId × Gaze) × List LogRecord × Option Fault :=
  match Address.resolve addr, arrival with
  | .error _, .cancelledBefore => (r, [], [], none)
  | .error e, _ => (r, [], [], some (.plain ("listen for orientation on " ++ addr ++ ": listen tcp: " ++ e)))
  | .ok (host, port), arrival =>
    let waiting : LogRecord := ⟨.info, "Waiting for orientation device", [("addr", .str (Address.join host port))]⟩
    match arrival with
    | .device stream =>
      let (r, emitted, stop) := r.readStream stream
      (r, emitted, [waiting, ⟨.info, "Orientation device connected", []⟩], stop)
    | _ => (r, [], [waiting], none)

end OrientationReader

end Focus
end JuryCaptions
