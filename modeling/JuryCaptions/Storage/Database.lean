import JuryCaptions.Storage.Rows
/-!
The recording backend that writes rows to an embedded database. Records are
queued per table; a flush writes each queue in a transaction, stamping rows with
the session started last, a failed queue waiting for the next flush. Ending
stamps the end unless set, flushes, stores it and dumps.
-/

namespace JuryCaptions
namespace Storage

/-- A table of numbered rows and the next number to give. -/
structure Table (α : Type) where
  rows : List α := []
  next : Nat := 1
  deriving Inhabited

structure Tables where
  sessions : Table SessionRow := {}
  captions : Table CaptionRow := {}
  focus : Table FocusRow := {}
  targets : Table TargetRow := {}
  positions : Table PositionRow := {}
  deriving Inhabited

structure Queues where
  captions : List CaptionRow := []
  focus : List FocusRow := []
  targets : List TargetRow := []
  positions : List PositionRow := []
  deriving Inhabited

def Queues.pending (q : Queues) : Nat :=
  q.captions.length + q.focus.length + q.targets.length + q.positions.length

inductive DumpTarget where
  /-- No dump path is set. -/
  | none
  /-- A file that can be written. -/
  | file (path : String)
  /-- A file in a directory that does not exist. -/
  | unreachable (path : String)
  deriving Repr, Inhabited

structure DatabaseBackend where
  /-- The tables, once the backend is set up. -/
  tables : Option Tables := none
  queues : Queues := {}
  session : Option Session := none
  /-- The number of the session inserted last. -/
  sessionId : Nat := 0
  dump : DumpTarget := .none
  /-- Whether a dump file was written. -/
  dumped : Bool := false
  deriving Inhabited

def noTable (name : String) : String := "SQL logic error: no such table: " ++ name ++ " (1)"

def uniqueFailure (column : String) (code : Nat) : String :=
  "constraint failed: UNIQUE constraint failed: " ++ column ++ " (" ++ toString code ++ ")"

namespace DatabaseBackend

def setup (b : DatabaseBackend) : DatabaseBackend :=
  match b.tables with
  | some _ => b
  | none => { b with tables := some {} }

/-- Starts a session: inserts its row and takes its number. -/
def start (b : DatabaseBackend) (s : Session) : DatabaseBackend × Session × Option Fault :=
  let b := { b with session := some s }
  match b.tables with
  | none => (b, s, some (.plain ("failed to insert new session: " ++ noTable "sessions")))
  | some t =>
    let fail (msg : String) := (b, s, some (Fault.plain ("failed to insert new session: " ++ msg)))
    if s.id ≠ 0 ∧ t.sessions.rows.any (·.id == s.id) then fail (uniqueFailure "sessions.id" 1555)
    else if t.sessions.rows.any (·.uuid == s.uuid) then fail (uniqueFailure "sessions.uuid" 2067)
    else
      let id := if s.id = 0 then t.sessions.next else s.id
      let row := { SessionRow.ofSession s with id := id }
      let sessions : Table SessionRow := { rows := t.sessions.rows ++ [row], next := max t.sessions.next (id + 1) }
      let s := { s with id := id }
      ({ b with tables := some { t with sessions := sessions }, session := some s, sessionId := id }, s, none)

def recordCaption (b : DatabaseBackend) (r : CaptionRecord) : DatabaseBackend :=
  { b with queues := { b.queues with captions := b.queues.captions ++ [CaptionRow.ofRecord r] } }

def recordFocus (b : DatabaseBackend) (r : FocusRecord) : DatabaseBackend :=
  { b with queues := { b.queues with focus := b.queues.focus ++ [FocusRow.ofRecord r] } }

def recordTarget (b : DatabaseBackend) (r : TargetRecord) : DatabaseBackend :=
  { b with queues := { b.queues with targets := b.queues.targets ++ [TargetRow.ofRecord r] } }

def recordPosition (b : DatabaseBackend) (r : PositionRecord) : DatabaseBackend × Option Fault :=
  match PositionRow.ofRecord r with
  | .ok row => ({ b with queues := { b.queues with positions := b.queues.positions ++ [row] } }, none)
  | .error f => (b, some f)

/-- Writes queued rows into a table, numbering them; `stamp` gives a row its
number and session. -/
def writeRows {α : Type} (table : Table α) (rows : List α) (stamp : α → Nat → α) : Table α :=
  let numbered := rows.zipIdx.map fun (r, i) => stamp r (table.next + i)
  { rows := table.rows ++ numbered, next := table.next + rows.length }

/-- Writes every queue; the failures, one per queue that could not be written. -/
def flush (b : DatabaseBackend) : DatabaseBackend × List String :=
  let q := b.queues
  let sid := b.sessionId
  match b.tables with
  | none =>
    let errs := [(q.captions.isEmpty, "caption messages", "caption_messages"),
        (q.focus.isEmpty, "focus changes", "focus_changes"),
        (q.targets.isEmpty, "target changes", "target_changes"),
        (q.positions.isEmpty, "speaker positions", "speaker_positions")].filterMap fun (empty, name, table) =>
      if empty then none else some ("write " ++ name ++ ": " ++ noTable table)
    (b, errs)
  | some t =>
    let t := { t with
      captions := writeRows t.captions q.captions fun r i => { r with id := i, sessionId := sid }
      focus := writeRows t.focus q.focus fun r i => { r with id := i, sessionId := sid }
      targets := writeRows t.targets q.targets fun r i => { r with id := i, sessionId := sid }
      positions := writeRows t.positions q.positions fun r i => { r with id := i, sessionId := sid } }
    ({ b with tables := some t, queues := {} }, [])

def joined (errs : List String) : Option Fault :=
  if errs.isEmpty then none else some (.plain ("\n".intercalate errs))

def dumpNow (b : DatabaseBackend) : DatabaseBackend × Option Fault :=
  match b.dump with
  | .none => (b, none)
  | .file _ => ({ b with dumped := true }, none)
  | .unreachable path =>
    (b, some (.plain ("error dumping memory DB to disk: unable to open database file: " ++
      "unable to open database: " ++ path ++ " (14)")))

/-- Ends the session at `now` unless it has an end: flushes, stores the end
time and dumps. -/
def finish (b : DatabaseBackend) (now : Instant) : DatabaseBackend × Option Fault :=
  match b.session with
  | none => (b, some (.plain "no session started"))
  | some s =>
    let s := if s.endTime.isZero then { s with endTime := now } else s
    let b := { b with session := some s }
    let (b, errs) := b.flush
    match joined errs with
    | some f => (b, some f)
    | none =>
      let b := match b.tables with
        | some t =>
          let sessions := t.sessions.rows.map fun (row : SessionRow) =>
            if row.id == s.id then { row with endTime := some s.endTime } else row
          { b with tables := some { t with sessions := { t.sessions with rows := sessions } } }
        | none => b
      b.dumpNow

def close (b : DatabaseBackend) : DatabaseBackend × Option Fault :=
  let (b, errs) := b.flush
  match joined errs with
  | some f => (b, some f)
  | none => b.dumpNow

end DatabaseBackend

end Storage
end JuryCaptions
