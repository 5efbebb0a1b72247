import JuryCaptions.Jury.Juror
/-!
The latest focused juror.

A tracker starts with nothing seen. Setting a juror counts as a change when
nothing was seen yet or the juror differs from the current one; only a change
is passed on to listeners, and closes the channel that waiters hold.
-/

namespace JuryCaptions
namespace Focus

/-- The focused juror and whether any value was seen yet. -/
structure Tracker where
  current : SpeakerId := SpeakerId.none
  seen : Bool := false
  deriving Repr, Inhabited

namespace Tracker

/-- Records a juror; the flag says whether it was a change. -/
def set (t : Tracker) (id : SpeakerId) : Tracker × Bool :=
  if t.seen && t.current == id then (t, false) else ({ current := id, seen := true }, true)

def feed (t : Tracker) : List SpeakerId → Tracker × List SpeakerId
  | [] => (t, [])
  | id :: ids =>
    let (t', changed) := t.set id
    let (t'', heard) := t'.feed ids
    (t'', if changed then id :: heard else heard)

end Tracker

/-- A tracker with its change channel. Channels are numbered as they are made:
`changed` is the one `Changed` hands out now, `closed` those closed so far. -/
structure Signalled where
  tracker : Tracker := {}
  changed : Nat := 0
  closed : List Nat := []
  deriving Inhabited

def Signalled.set (s : Signalled) (id : SpeakerId) : Signalled × Bool :=
  let (t, changed) := s.tracker.set id
  if changed then ({ tracker := t, changed := s.changed + 1, closed := s.closed ++ [s.changed] }, true)
  else (s, false)

end Focus
end JuryCaptions
