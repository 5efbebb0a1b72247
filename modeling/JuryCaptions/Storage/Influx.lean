import JuryCaptions.Storage.Rows
/-!
The recording backend that writes every record as a time-series point.

A point is one line: measurement, sorted tags, fields and the time in
nanoseconds (left out at zero, wrapping outside 1678 to 2262), with spaces,
commas and equals signs escaped. The server is never reachable here, so the
lines go to a compressed backup file; without a backup path writes fail.
-/

namespace JuryCaptions
namespace Storage

inductive FieldValue where
  | int (n : Int)
  | float (x : Float)
  | text (s : String)
  deriving Repr, Inhabited

structure Point where
  name : String
  tags : List (String × String)
  fields : List (String × FieldValue)
  time : Instant
  deriving Repr, Inhabited

/-- Escapes a name, key or tag value; equals signs only when asked. -/
def escapeKey (s : String) (equals : Bool) : String :=
  String.join (s.toList.map fun c =>
    if c = '\n' then "\\\\n"
    else if c = '\r' then "\\\\r"
    else if c = '\t' then "\\\\t"
    else if c = ' ' ∨ c = ',' then "\\" ++ String.singleton c
    else if c = '=' ∧ equals then "\\="
    else String.singleton c)

def escapeText (s : String) : String :=
  String.join (s.toList.map fun c => if c = '\\' ∨ c = '"' then "\\" ++ String.singleton c else String.singleton c)

def FieldValue.render : FieldValue → String
  | .int n => toString n ++ "i"
  | .float x => FloatText.general x
  | .text s => "\"" ++ escapeText s ++ "\""

def Point.line (p : Point) : String :=
  let tags := p.tags.mergeSort fun a b => decide (a.1 ≤ b.1)
  let fields := p.fields.mergeSort fun a b => decide (a.1 ≤ b.1)
  escapeKey p.name false ++ "," ++
    ",".intercalate (tags.map fun (k, v) => escapeKey k true ++ "=" ++ escapeKey v true) ++ " " ++
    ",".intercalate (fields.map fun (k, v) => escapeKey k true ++ "=" ++ v.render) ++
    (if p.time.isZero then "" else " " ++ toString p.time.unixNanos64)

def captionPoint (session : String) (r : CaptionRecord) : Point :=
  let focused := r.message.focusedId
  { name := "caption"
    tags := [("session", session), ("speaker", r.message.speaker)] ++
      (if focused.isEmpty then [] else [("focused", focused)])
    fields := [("message_id", .int r.message.messageId), ("chunk_id", .int r.message.chunkId),
      ("text", .text r.message.text), ("send_delay_ms", .float (millisOf r.sendDelay))]
    time := r.time }

def focusPoint (session : String) (r : FocusRecord) : Point :=
  { name := "focus", tags := [("session", session), ("source", r.source)],
    fields := [("juror", .text r.focused)], time := r.time }

def targetPoint (session : String) (r : TargetRecord) : Point :=
  { name := "target", tags := [("session", session), ("input", r.input)],
    fields := [("juror", .text r.target)], time := r.time }

def positionPoint (session : String) (r : PositionRecord) : Point :=
  { name := "speaker_position", tags := [("session", session), ("speaker", r.speaker)],
    fields := [("x", .float r.position.x), ("y", .float r.position.y), ("z", .float r.position.z)],
    time := r.time }

inductive BackupTarget where
  /-- No backup path is set. -/
  | none
  /-- A path that can be written. -/
  | file
  /-- A path whose parent is a regular file. -/
  | blocked (parent : String)
  deriving Repr, Inhabited

/-- A writer of the compressed backup file: what it has put in the file and
what it still holds. -/
structure BackupWriter where
  /-- Whether its header is in the file; it goes there with the first write. -/
  started : Bool := false
  /-- The text it has pushed out to the file. -/
  flushed : String := ""
  /-- The bytes of compressed stream that pushing it out took. -/
  streamBytes : Nat := 0
  /-- The text it holds. -/
  pending : String := ""
  deriving Inhabited

/-- The framing of a stored block of the compressed stream: a block header
padded to a byte, then the length and its complement. -/
def storedFraming : Nat := 5

def storedBlockMax : Nat := 65535

namespace BackupWriter

/-- Takes text to write; the header goes into the file now. -/
def add (w : BackupWriter) (text : String) : BackupWriter :=
  { w with started := true, pending := w.pending ++ text }

/-- Pushes the held text out: it goes into the stream as stored blocks, then an
empty stored block marks the flush. -/
def flush (w : BackupWriter) : BackupWriter :=
  let size := w.pending.utf8ByteSize
  let blocks := (size + storedBlockMax - 1) / storedBlockMax
  { started := true, flushed := w.flushed ++ w.pending, pending := "",
    streamBytes := w.streamBytes + blocks * storedFraming + size + storedFraming }

end BackupWriter

inductive BackupMember where
  /-- A writer that was closed: all its text reads back. -/
  | complete (text : String)
  /-- A writer given up after it started: the text it pushed out, then a
  stream that breaks where the next writer's header begins, after this many
  bytes. -/
  | broken (text : String) (streamBytes : Nat)
  deriving Inhabited

/-- Reading the backup file: its text up to the first broken writer, and the
fault there, at the first byte of the next header. -/
def readBackup (members : List BackupMember) : String × Option String :=
  members.foldl (fun (acc : String × Option String) m =>
    match acc.2, m with
    | some _, _ => acc
    | none, .complete text => (acc.1 ++ text, none)
    | none, .broken text n => (acc.1 ++ text, some ("flate: corrupt input before offset " ++ toString (n + 1))))
    ("", none)

/-- The lines of a text as a line scanner gives them: each without its line
end, a last line without one kept, and none for an empty text. -/
def scannedLines (text : String) : List String :=
  let parts := text.splitOn "\n"
  if parts.getLast? == some "" then parts.dropLast else parts

structure InfluxBackend where
  backup : BackupTarget
  /-- The open backup writer, if one is open. -/
  writer : Option BackupWriter := none
  /-- The writers' parts of the backup file, once it exists. -/
  file : Option (List BackupMember) := none
  session : Option Session := none
  counter : Nat := 0
  deriving Inhabited

namespace InfluxBackend

/-- The backup file with the open writer given up: it stays in the file as a
broken part once it has started. -/
def abandon (b : InfluxBackend) : InfluxBackend :=
  match b.writer with
  | some w =>
    if w.started then { b with writer := none, file := some (b.file.getD [] ++ [.broken w.flushed w.streamBytes]) }
    else { b with writer := none }
  | none => b

/-- Sets the backend up: the server is unreachable, so the backup file is
opened with a new writer; a writer open before is given up without closing. -/
def setup (b : InfluxBackend) : InfluxBackend × Option Fault :=
  match b.backup with
  | .none => (b, some (.plain "failed to initialize influx: influxDB unreachable and no backup path configured"))
  | .blocked parent =>
    (b, some (.plain ("failed to initialize influx: error creating backup directory: mkdir " ++ parent ++
      ": not a directory")))
  | .file =>
    let b := b.abandon
    ({ b with writer := some {}, file := some (b.file.getD []) }, none)

def start (b : InfluxBackend) (s : Session) : InfluxBackend × Session :=
  let s := { s with id := b.counter + 1 }
  ({ b with counter := b.counter + 1, session := some s }, s)

def sessionTag (b : InfluxBackend) : String := (b.session.map (·.uuid)).getD ""

/-- Writes a point to the backup: its line, which ends in a line end, and one
more line end after it, so that a blank line follows every point. -/
def write (b : InfluxBackend) (p : Point) : InfluxBackend × Option Fault :=
  match b.writer with
  | none => (b, some (.plain "influxDB client not initialized and backup writer not available"))
  | some w => ({ b with writer := some (w.add (p.line ++ "\n\n")) }, none)

/-- Ends the session at `now` unless it has an end, and pushes the backup
writer's text out. -/
def finish (b : InfluxBackend) (now : Instant) : InfluxBackend × Option Fault :=
  match b.session with
  | none => (b, some (.plain "no session started"))
  | some s =>
    ({ b with session := some (if s.endTime.isZero then { s with endTime := now } else s),
              writer := b.writer.map BackupWriter.flush }, none)

/-- Closes the backup writer: all its text is in the file. -/
def close (b : InfluxBackend) : InfluxBackend :=
  match b.writer with
  | none => b
  | some w => { b with writer := none, file := some (b.file.getD [] ++ [.complete (w.flushed ++ w.pending)]) }

end InfluxBackend

end Storage
end JuryCaptions
