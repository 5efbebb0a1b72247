import JuryCaptions.Time.Duration
import JuryCaptions.Fault
import JuryCaptions.Number.Read
import JuryCaptions.Text.Blank
/-!
Transcripts: lists of timed cues. A cue runs from a start to an end and holds
lines of fragments, each with its enclosing markup tags; it may carry comments,
display settings and a region.

Cue times are `hh:mm:ss.ttt` and `mm:ss.ttt`: one to three digits of
milliseconds after the last point, trimmed numbers between colons, the sum
wrapping at the 64-bit bounds of a duration.
-/

namespace JuryCaptions
namespace Transcript

/-- A markup tag around text: its name, its classes and its annotation. -/
structure Tag where
  name : String
  classes : List String := []
  annotation : String := ""
  deriving Repr, Inhabited, BEq

/-- A piece of text and the tags that enclose it, outermost first. -/
structure Fragment where
  text : String
  tags : List Tag := []
  deriving Repr, Inhabited

/-- A line of a cue: the voice that speaks it, if named, and its fragments. -/
structure CueLine where
  voice : String := ""
  fragments : List Fragment := []
  deriving Repr, Inhabited

/-- Display settings of a cue, each empty when not given. -/
structure Settings where
  align : String := ""
  line : String := ""
  position : String := ""
  size : String := ""
  vertical : String := ""
  deriving Repr, Inhabited

structure Region where
  id : String
  deriving Repr, Inhabited

structure Cue where
  start : Duration
  stop : Duration
  lines : List CueLine := []
  comments : List String := []
  settings : Settings := {}
  region : Option Region := none
  deriving Repr, Inhabited

namespace Cue

def plain (start stop : Duration) (lines : List (List String)) : Cue :=
  { start, stop, lines := lines.map fun l => { fragments := l.map fun t => { text := t } } }

def texts (c : Cue) : List (List String) := c.lines.map fun l => l.fragments.map (·.text)

/-- The cue moved earlier by `d`, each time wrapping around at the 64-bit
bounds of a duration. -/
def shift (c : Cue) (d : Duration) : Cue :=
  { c with start := Duration.wrap (c.start - d), stop := Duration.wrap (c.stop - d) }

end Cue

/-! ### Cue times -/

def readerFault (msg : String) : Fault := .plain ("astisub: " ++ msg)

def numberFault (read : String) (e : NumberText.ReadError) : Fault :=
  readerFault ("atoi of " ++ read ++ " failed: " ++ e.message "Atoi" read)

def readPart (part : String) : Except Fault Int :=
  let t := Blank.trim part
  (NumberText.readWhole t).mapError (numberFault t)

/-- Thousandths per unit of a fraction written with `n` digits. -/
def millisScale : Nat → Int
  | 0 => 1000
  | 1 => 100
  | 2 => 10
  | _ => 1

def parseTime (i : String) : Except Fault Duration := do
  let parts := i.splitOn "."
  let (ms, rest) ← if parts.length ≥ 2 then do
      let s := Blank.trim (parts.getLast?.getD "")
      if s.utf8ByteSize > 3 then
        throw (readerFault ("Invalid number of millisecond digits detected in " ++ i))
      let m ← (NumberText.readWhole s).mapError (numberFault s)
      pure (m * millisScale s.utf8ByteSize, ".".intercalate parts.dropLast)
    else pure (0, i)
  let (h, m, s) ← match (Blank.trim rest).splitOn ":" with
    | [m, s] => pure ("", m, s)
    | [h, m, s] => pure (h, m, s)
    | _ => throw (readerFault ("No hours, minutes or seconds detected in " ++ i))
  let seconds ← readPart s
  let minutes ← readPart m
  let hours ← if h.isEmpty then pure 0 else readPart h
  pure (Duration.wrap (Duration.wrap (ms * 1000000) + Duration.wrap (seconds * 1000000000) + Duration.wrap (minutes * 60000000000) +
    Duration.wrap (hours * 3600000000000)))

end Transcript
end JuryCaptions
