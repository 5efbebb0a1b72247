import JuryCaptions.Service.Host
import JuryCaptions.Service.Surfaces
import JuryCaptions.Storage.Memory
import JuryCaptions.Storage.Database
import JuryCaptions.Storage.Influx
import JuryCaptions.Storage.Queue
/-!
Operations on the recording backends: records as rows, a backend run through a
list of operations, and choosing a backend by name. An end time given to `end`
becomes the session's end before it ends.
-/

namespace JuryCaptions
namespace Service

open Storage

/-- A stored juror in an answer: null when missing. -/
def optJson : Option String → Json
  | some s => .str s
  | none => .null

def captionRecordOf (j : Json) : Handled CaptionRecord := do
  let time ← Req.time j "time"
  let delay ← Req.int j "send_delay_ns"
  let m ← Req.obj j "message"
  let msg ← Req.message m
  pure { time := time, message := msg, sendDelay := delay }

def focusRecordOf (j : Json) : Handled FocusRecord := do
  let time ← Req.time j "time"
  let focused ← Req.str j "focused"
  let source ← Req.str j "source"
  pure { time := time, focused := focused, source := source }

def targetRecordOf (j : Json) : Handled TargetRecord := do
  let time ← Req.time j "time"
  let target ← Req.str j "target"
  let input ← Req.str j "input"
  pure { time := time, target := target, input := input }

def positionRecordOf (j : Json) : Handled PositionRecord := do
  let time ← Req.time j "time"
  let speaker ← Req.str j "speaker"
  let position ← Req.vec3 j "position"
  pure { time := time, speaker := speaker, position := position }

/-- A time in an answer, in the zone it was given in unless `utc`. -/
def timeJson (utc : Bool) (t : Instant) : Json := .str (if utc then t.toUtc.format else t.format)

def sessionRowJson (utc : Bool) (r : SessionRow) : Json :=
  let time := timeJson utc
  .obj [("id", .nat r.id), ("uuid", .str r.uuid), ("rendering_method", .int r.method),
    ("rendering_method_name", .str r.methodName), ("captions_file", .str r.captionsFile),
    ("focus_source", .str r.focusSource), ("client_addr", .str r.clientAddr),
    ("start_time", time r.startTime), ("end_time", match r.endTime with
      | some t => time t
      | none => .null)]

def captionRowMembers (utc : Bool) (r : CaptionRow) : List (String × Json) :=
  [("time", timeJson utc r.time), ("message_id", .int r.messageId),
    ("chunk_id", .int r.chunkId), ("speaker_id", .str r.speaker), ("focused_id", optJson r.focused),
    ("send_delay_ms", floatJson r.sendDelayMs), ("payload", .str r.payload)]

def focusRowMembers (utc : Bool) (r : FocusRow) : List (String × Json) :=
  [("time", timeJson utc r.time), ("focused", optJson r.focused),
    ("source", .str r.source)]

def targetRowMembers (utc : Bool) (r : TargetRow) : List (String × Json) :=
  [("time", timeJson utc r.time), ("target", optJson r.target),
    ("input", .str r.input)]

def positionRowMembers (utc : Bool) (r : PositionRow) : List (String × Json) :=
  [("time", timeJson utc r.time), ("speaker", .str r.speaker),
    ("position", vecJson [r.position.x, r.position.y, r.position.z])]

def convertOp (r : Json) : Handled Json := do
  let kind ← Req.str r "kind"
  let rec ← Req.obj r "record"
  match kind with
  | "session" =>
    let s ← sessionOf rec
    pure (sessionRowJson false (SessionRow.ofSession s))
  | "caption" =>
    let c ← captionRecordOf rec
    pure (.obj (captionRowMembers false (CaptionRow.ofRecord c)))
  | "focus" =>
    let f ← focusRecordOf rec
    pure (.obj (focusRowMembers false (FocusRow.ofRecord f)))
  | "target" =>
    let t ← targetRecordOf rec
    pure (.obj (targetRowMembers false (TargetRow.ofRecord t)))
  | "position" =>
    let p ← positionRecordOf rec
    pure (match PositionRow.ofRecord p with
      | .ok row => .obj (positionRowMembers false row ++ [("empty", .bool false)])
      | .error f => faultJson f)
  | "empty_point" => pure (.obj [("position", vecJson [0.0, 0.0, 0.0])])
  | other => throw (unknown "record kind" other)

def errorMembers : Option Fault → List (String × Json)
  | some f => [("error", faultJson f)]
  | none => []

def Req.startSession (op : Json) : Handled Session := do
  let s ← Req.obj op "session"
  sessionOf s

def Req.endTime (op : Json) : Handled (Option Instant) := do
  if op.has "end_time" then
    let t ← Req.time op "end_time"
    pure (if t.isZero then none else some t)
  else pure none

def withEnd (s : Option Session) (t : Option Instant) : Option Session :=
  match s, t with
  | some s, some t => some { s with endTime := t }
  | s, _ => s

def memoryStep (b : MemoryBackend) (op : Json) : Handled (MemoryBackend × Json) := do
  let what ← Req.str op "do"
  match what with
  | "start" =>
    let s ← Req.startSession op
    let (b, s) := b.start s
    pure (b, .obj [("session_id", .nat s.id)])
  | "caption" => do pure (b.recordCaption (← captionRecordOf op), .obj [])
  | "focus" => do pure (b.recordFocus (← focusRecordOf op), .obj [])
  | "target" => do pure (b.recordTarget (← targetRecordOf op), .obj [])
  | "position" => do pure (b.recordPosition (← positionRecordOf op), .obj [])
  | "end" =>
    let b := { b with session := withEnd b.session (← Req.endTime op) }
    let (b, err) := b.finish Instant.zero
    pure (b, .obj (errorMembers err))
  | "metadata" =>
    let m := b.summary
    pure (b, .obj [("metadata", .obj [("session_id", .str m.sessionId),
      ("rendering_method", .str m.methodName), ("duration", floatJson m.duration),
      ("captions", .nat m.captions)])])
  | "path" => pure (b, .obj [("file", .str (if b.exportPath.isEmpty then "" else Path.base b.exportPath))])
  | "export" =>
    pure (b, .obj (match b.exportPath.isEmpty, b.files.read b.exportPath with
      | false, .ok text => [("export", .str text), ("gzipped", .bool b.compress)]
      | _, _ => [("export", .null)]))
  | other => throw (unknown "memory op" other)

def memoryOp (r : Json) : Handled Json := do
  let compress ← Req.bool r "compress"
  let ops ← Req.list r "ops"
  let (_, steps) ← ops.foldlM (fun (acc : MemoryBackend × List Json) op => do
    let (b, j) ← memoryStep acc.1 op
    pure (b, acc.2 ++ [j])) ({ compress := compress, outputDir := "/tmp/recordings" }, [])
  pure (answer [("steps", .arr steps)])

def databaseStep (b : DatabaseBackend) (op : Json) : Handled (DatabaseBackend × List (String × Json)) := do
  let what ← Req.str op "do"
  match what with
  | "start" =>
    let s ← Req.startSession op
    let (b, s, err) := b.start s
    pure (b, [("session_id", .nat s.id)] ++ errorMembers err)
  | "caption" => do pure (b.recordCaption (← captionRecordOf op), [])
  | "focus" => do pure (b.recordFocus (← focusRecordOf op), [])
  | "target" => do pure (b.recordTarget (← targetRecordOf op), [])
  | "position" =>
    let p ← positionRecordOf op
    let (b, err) := b.recordPosition p
    pure (b, errorMembers err)
  | "end" =>
    let b := { b with session := withEnd b.session (← Req.endTime op) }
    let (b, err) := b.finish Instant.zero
    pure (b, errorMembers err)
  | "close" =>
    let (b, err) := b.close
    pure (b, errorMembers err)
  | other => throw (unknown "storage op" other)

def tablesJson (t : Tables) : List (String × Json) :=
  let rows {α : Type} (members : α → List (String × Json)) (id : α → Nat) (sid : α → Nat) (xs : List α) : Json :=
    .arr (xs.map fun x => .obj ([("id", .nat (id x)), ("session_id", .nat (sid x))] ++ members x))
  [("sessions", .arr (t.sessions.rows.map (sessionRowJson true))),
    ("captions", rows (captionRowMembers true) (·.id) (·.sessionId) t.captions.rows),
    ("focus", rows (focusRowMembers true) (·.id) (·.sessionId) t.focus.rows),
    ("targets", rows (targetRowMembers true) (·.id) (·.sessionId) t.targets.rows),
    ("positions", rows (positionRowMembers true) (·.id) (·.sessionId) t.positions.rows)]

/-- Runs the database backend through steps, closes it, and lists its tables. -/
def sqliteOp (r : Json) : Handled Json := do
  let noDump ← Req.bool r "no_dump"
  let badPath ← Req.bool r "bad_dump_path"
  let noInit ← Req.bool r "no_init"
  let interval ← Req.int r "dump_interval_ns"
  let linger ← Req.int r "linger_ms"
  let ops ← Req.list r "ops"
  if interval ≠ 0 ∧ interval < 1000000 then
    throw (badInput "dump_interval_ns must be 0 or at least 1ms")
  if linger < 0 ∨ linger > 50 then throw (badInput "linger_ms must be in 0..50")
  let looping := interval ≠ 0
  if looping ∧ !noDump then
    for op in ops do
      if (← Req.str op "do") == "end" then
        throw (badInput "end dumps to the file the dump loop may be writing")
  let dump : DumpTarget := if noDump then .none
    else if badPath then .unreachable "<dir>/missing/dump.db" else .file "<dir>/dump.db"
  let b : DatabaseBackend := { dump := dump }
  let b := if noInit then b else b.setup
  let (b, steps) ← ops.foldlM (fun (acc : DatabaseBackend × List Json) op => do
    let (b, members) ← databaseStep acc.1 op
    let pending := if looping then [] else [("pending", Json.nat b.queues.pending)]
    pure (b, acc.2 ++ [.obj (members ++ pending)])) (b, [])
  let (b, _) := b.close
  pure (answer ([("steps", .arr steps)] ++
    (if noDump then [] else [("dumped", .bool b.dumped)]) ++
    (match b.tables with
      | some t => if noInit then [] else tablesJson t
      | none => [])))

def influxStep (b : InfluxBackend) (op : Json) : Handled (InfluxBackend × List (String × Json)) := do
  let what ← Req.str op "do"
  let written (p : Point) : Handled (InfluxBackend × List (String × Json)) :=
    let (b, err) := b.write p
    pure (b, errorMembers err)
  match what with
  | "init" =>
    let (b, err) := b.setup
    pure (b, errorMembers err)
  | "start" =>
    let s ← Req.startSession op
    let (b, s) := b.start s
    pure (b, [("session_id", .nat s.id)])
  | "caption" => do written (captionPoint b.sessionTag (← captionRecordOf op))
  | "focus" => do written (focusPoint b.sessionTag (← focusRecordOf op))
  | "target" => do written (targetPoint b.sessionTag (← targetRecordOf op))
  | "position" => do written (positionPoint b.sessionTag (← positionRecordOf op))
  | "end" =>
    let b := { b with session := withEnd b.session (← Req.endTime op) }
    let (b, err) := b.finish Instant.zero
    pure (b, errorMembers err)
  | "close" => pure (b.close, [])
  | other => throw (unknown "storage op" other)

/-- Runs the time-series backend through steps, closes it, and reads its backup. -/
def influxOp (r : Json) : Handled Json := do
  let backup ← Req.str r "backup"
  let ops ← Req.list r "ops"
  let target : BackupTarget := match backup with
    | "none" => .none
    | "blocked" => .blocked "<dir>/blocked"
    | _ => .file
  let (b, steps) ← ops.foldlM (fun (acc : InfluxBackend × List Json) op => do
    let (b, members) ← influxStep acc.1 op
    pure (b, acc.2 ++ [.obj members])) ({ backup := target }, [])
  let b := b.close
  pure (answer ([("steps", .arr steps)] ++
    (match target with
      | .none => []
      | _ =>
        match b.file with
        | some members =>
          let (text, fault) := readBackup members
          [("backup", .arr ((scannedLines text).map Json.str))] ++
            (match fault with
              | some f => [("backup_error", .str f)]
              | none => [])
        | none => [("backup", .null)])))

def storageFactoryOp (r : Json) : Handled Json := do
  let type ← Req.str r "type"
  let found : Option (String × Bool) := match type with
    | "memory" | "" => some ("*memory.Backend", true)
    | "sqlite" => some ("*sqlitestorage.Backend", false)
    | "postgres" => some ("*postgres.Backend", false)
    | "websocket" => some ("*websocket.Backend", false)
    | "influx" => some ("*influxstorage.Backend", false)
    | _ => none
  pure (match found with
    | some (name, up) => answer [("type", .str name), ("uploadable", .bool up)]
    | none => faultJson (.plain ("unknown storage type: " ++ type)))

def queueOp (r : Json) : Handled Json := do
  let ops ← Req.list r "ops"
  let (_, steps) ← ops.foldlM (fun (acc : PendingQueue String × List Json) op => do
    let what ← Req.str op "do"
    let items ← Req.strs op "items"
    let (q, extra) ← match what with
      | "push" => pure (acc.1.push items, [])
      | "requeue" => pure (acc.1.requeue items, [])
      | "drain" =>
        let (out, q) := acc.1.drain
        pure (q, [("drained", match out with
          | some xs => Json.arr (xs.map Json.str)
          | none => Json.null)])
      | other => throw (unknown "queue op" other)
    pure (q, acc.2 ++ [.obj (extra ++ [("len", .nat q.length), ("empty", .bool q.isEmpty)])])) ({}, [])
  pure (answer [("steps", .arr steps)])

def tableNamesOp (_ : Json) : Handled Json :=
  pure (answer [("tables", .arr (["sessions", "caption_messages", "focus_changes", "target_changes",
    "speaker_positions"].map Json.str))])

end Service
end JuryCaptions
