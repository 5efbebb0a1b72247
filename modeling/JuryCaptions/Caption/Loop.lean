import JuryCaptions.Caption.Stream
import JuryCaptions.Focus.Tracker
/-!
The caption stream running beside its sources, interleaved in any order. A
change channel closes once its source's count moves on. The loop flushes the
current pair unless sent last, then waits for a channel to close, or for
cancellation, when it flushes once more and returns.
-/

namespace JuryCaptions
namespace StreamLoop

/-- Where the loop stands: the change counts at which it took the caption and
focus channels; `final` marks the last flush, after cancellation. -/
inductive Phase where
  /-- About to take the caption channel. -/
  | start
  /-- Took the caption channel; about to take the focus channel. -/
  | tookCaption (cap : Nat)
  /-- Took both channels; about to read the current caption. -/
  | flushing (final : Bool) (cap foc : Nat)
  /-- Read a caption; about to read the current focus. -/
  | readCaption (final : Bool) (cap foc : Nat) (caption : Caption)
  /-- Read the pair; about to send it unless it went out last. -/
  | readPair (final : Bool) (cap foc : Nat) (caption : Caption) (focused : SpeakerId)
  /-- Blocked until a channel it took is closed or the loop is cancelled. -/
  | waiting (cap foc : Nat)
  /-- Returned, with the failure that stopped it if there was one. -/
  | returned (failure : Option Fault)
  deriving Inhabited

/-- The stream, its two sources and what the client and the recorder received. -/
structure State where
  /-- The player's current caption. -/
  caption : Option Caption := none
  /-- How many captions the player emitted. -/
  captionChanges : Nat := 0
  tracker : Focus.Tracker := {}
  /-- How many times the tracker's focus changed. -/
  focusChanges : Nat := 0
  cancelled : Bool := false
  stream : CaptionStream := {}
  phase : Phase := .start
  /-- The messages written to the client, in order. -/
  delivered : List CaptionMessage := []
  /-- The messages handed to the recorder, in order. -/
  recorded : List CaptionMessage := []
  /-- The pairs the written messages were made from. -/
  sentPairs : List (Caption × SpeakerId) := []
  deriving Inhabited

/-- What can happen next: a source changes, the loop is cancelled, or the loop
takes its next step. A send says whether the writer fails, and how. -/
inductive Event where
  | emit (c : Caption)
  | focus (id : SpeakerId)
  | cancel
  | takeCaption
  | takeFocus
  | readCaption
  | readFocus
  | send (writeFailure : Option String)
  | wake
  | exit
  deriving Inhabited

/-- Where the loop goes after a flush: back to waiting on the channels it took,
or out after the final flush. -/
def afterFlush (final : Bool) (cap foc : Nat) : Phase :=
  if final then .returned none else .waiting cap foc

/-- One step, or `none` when the event cannot happen now. Frames are written
with the limit `limit`. -/
def step (limit : Nat) (s : State) : Event → Option State
  | .emit c => some { s with caption := some c, captionChanges := s.captionChanges + 1 }
  | .focus id =>
    let (t, changed) := s.tracker.set id
    some { s with tracker := t,
                  focusChanges := if changed then s.focusChanges + 1 else s.focusChanges }
  | .cancel => some { s with cancelled := true }
  | .takeCaption =>
    match s.phase with
    | .start => some { s with phase := .tookCaption s.captionChanges }
    | _ => none
  | .takeFocus =>
    match s.phase with
    | .tookCaption cap => some { s with phase := .flushing false cap s.focusChanges }
    | _ => none
  | .readCaption =>
    match s.phase with
    | .flushing final cap foc =>
      match s.caption with
      | some c => some { s with phase := .readCaption final cap foc c }
      | none => some { s with phase := afterFlush final cap foc }
    | _ => none
  | .readFocus =>
    match s.phase with
    | .readCaption final cap foc c =>
      some { s with phase := .readPair final cap foc c s.tracker.current }
    | _ => none
  | .send failure =>
    match s.phase with
    | .readPair final cap foc c f =>
      match s.stream.pass (some c) f limit failure with
      | (_, .failed e) => some { s with phase := .returned (some e) }
      | (st, .sent msg _) =>
        some { s with stream := st, phase := afterFlush final cap foc,
                      delivered := s.delivered ++ [msg], recorded := s.recorded ++ [msg],
                      sentPairs := s.sentPairs ++ [(c, f)] }
      | (st, .idle) => some { s with stream := st, phase := afterFlush final cap foc }
    | _ => none
  | .wake =>
    match s.phase with
    | .waiting cap foc =>
      if cap < s.captionChanges ∨ foc < s.focusChanges then some { s with phase := .start }
      else none
    | _ => none
  | .exit =>
    match s.phase with
    | .waiting cap foc => if s.cancelled then some { s with phase := .flushing true cap foc } else none
    | _ => none

/-- The state after a sequence of events, or `none` when one of them cannot
happen when its turn comes. -/
def run (limit : Nat) (s : State) : List Event → Option State
  | [] => some s
  | e :: es => (step limit s e).bind fun s' => run limit s' es

end StreamLoop
end JuryCaptions
