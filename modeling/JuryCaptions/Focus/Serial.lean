import JuryCaptions.Jury.Juror
import JuryCaptions.Text.Blank
import JuryCaptions.Text.Utf8
import JuryCaptions.System.Files
/-!
Focus codes read from an eye-tracking device: one trimmed code a line, `0` to
`3` the jurors in seat order, `9` nobody, anything else nobody but unknown. A
line of `maxLine` bytes or more fails. No file is a terminal, so a port that
opens fails when its settings are read.
-/

namespace JuryCaptions
namespace Focus

def noFocusCode : String := "9"

def parseCode (line : String) : SpeakerId × Bool :=
  let line := Blank.trim line
  if line == noFocusCode then (SpeakerId.none, true)
  else
    match line.toList with
    | [c] =>
      if '0' ≤ c ∧ c ≤ '3' then
        match SpeakerId.ofIndex (c.toNat - '0'.toNat) with
        | .ok id => (id, true)
        | .error _ => (SpeakerId.none, false)
      else (SpeakerId.none, false)
    | _ => (SpeakerId.none, false)

def maxLine : Nat := 65536

def lineTooLong : Fault := .plain "bufio.Scanner: token too long"

def dropReturn (line : List UInt8) : List UInt8 :=
  if line.getLast? == some 13 then line.dropLast else line

/-- The lines of a byte stream, each without its line feed, and the failure
that stopped the reading early, if any. -/
def splitLines (bs : List UInt8) : List (List UInt8) × Option Fault :=
  go bs.length bs
where
  /-- Reads lines while `fuel` lasts; every line read takes at least one byte. -/
  go : Nat → List UInt8 → List (List UInt8) × Option Fault
  | 0, _ => ([], none)
  | _ + 1, [] => ([], none)
  | fuel + 1, bs =>
    let line := bs.takeWhile (· != 10)
    if line.length ≥ maxLine then ([], some lineTooLong)
    else
      let rest := bs.drop (line.length + 1)
      let (more, stop) := go fuel rest
      (dropReturn line :: more, stop)

/-- The jurors a device stream names, line by line, and the failure that
stopped the reading, if any. -/
def readCodes (bs : List UInt8) : List SpeakerId × Option Fault :=
  let (lines, stop) := splitLines bs
  (lines.map fun l => (parseCode (Utf8.decode l)).1, stop.map (Fault.context "read serial"))

/-- Reads the device until its stream ends: what `readCodes` gives, with the
failure dropped once the context is cancelled, which closes the port and so
ends the stream where it was cut. -/
def readLines (bs : List UInt8) (cancelled : Bool) : List SpeakerId × Option Fault :=
  let (ids, stop) := readCodes bs
  (ids, if cancelled then none else stop)

def portFailure (files : Files) (cwd path : String) : Fault :=
  let why : String :=
    if path.isEmpty then "no such file or directory"
    else
      let full := if path.startsWith "/" then path else cwd ++ "/" ++ path
      match files.lookup full with
      | .error e => e
      | .ok .dir => "is a directory"
      | .ok _ => "Invalid serial port: error getting term settings: inappropriate ioctl for device"
  .plain ("open serial port " ++ path ++ ": " ++ why)

end Focus
end JuryCaptions
