import JuryCaptions.Storage.Export
import JuryCaptions.System.Files
/-!
The recording backend that keeps a session in memory. Starting numbers the
session and forgets earlier records; ending stamps the end unless set and
writes the export: it makes the output directory, creates the file empty, then
writes the document. Only a written export is recorded as the last.
-/

namespace JuryCaptions

/-- A session ended at `now`, unless it has an end already. -/
def Session.endedAt (s : Session) (now : Instant) : Session :=
  if s.endTime.isZero then { s with endTime := now } else s

namespace Storage

def noSessionFault : Fault := ⟨.noSession, "no session started"⟩

structure MemoryBackend where
  compress : Bool
  /-- The directory exports are written to, an absolute path. -/
  outputDir : String := "/tmp"
  /-- The file tree exports are written into; a compressed export is kept as
  the text it decompresses to. -/
  files : Files := Files.system
  session : Option Session := none
  captions : List CaptionRecord := []
  focus : List FocusRecord := []
  targets : List TargetRecord := []
  positions : List PositionRecord := []
  counter : Nat := 0
  /-- The path of the last export written for the current session, or empty. -/
  exportPath : String := ""
  deriving Inhabited

namespace MemoryBackend

def start (b : MemoryBackend) (s : Session) : MemoryBackend × Session :=
  let s := { s with id := b.counter + 1 }
  let b := { b with
    counter := b.counter + 1
    session := some s
    captions := []
    focus := []
    targets := []
    positions := []
    exportPath := "" }
  (b, s)

def recordCaption (b : MemoryBackend) (r : CaptionRecord) : MemoryBackend :=
  { b with captions := b.captions ++ [r] }

def recordFocus (b : MemoryBackend) (r : FocusRecord) : MemoryBackend :=
  { b with focus := b.focus ++ [r] }

def recordTarget (b : MemoryBackend) (r : TargetRecord) : MemoryBackend :=
  { b with targets := b.targets ++ [r] }

def recordPosition (b : MemoryBackend) (r : PositionRecord) : MemoryBackend :=
  { b with positions := b.positions ++ [r] }

def recording (b : MemoryBackend) (s : Session) : Recording :=
  { session := s, captions := b.captions, focus := b.focus, targets := b.targets,
    positions := b.positions }

/-- Where the export of a session goes. -/
def exportPathOf (b : MemoryBackend) (s : Session) : String := Path.join [b.outputDir, exportFileName s b.compress]

/-- Ends the session at `now` unless it has an end, and writes its export. -/
def finish (b : MemoryBackend) (now : Instant) : MemoryBackend × Option Fault :=
  match b.session with
  | none => (b, some noSessionFault)
  | some s =>
    let s := s.endedAt now
    let b := { b with session := some s }
    let path := b.exportPathOf s
    match b.files.makeDirs b.outputDir with
    | .error e => (b, some (.plain ("failed to create output directory: " ++ e)))
    | .ok fs =>
      -- creating the file empties one of the same name, whatever comes next
      match fs.write path "" false with
      | .error e => ({ b with files := fs }, some (.plain ("failed to create file: open " ++ path ++ ": " ++ e)))
      | .ok fs =>
        match exportText (b.recording s) with
        | .ok text => ({ b with files := fs.put path (.file text false), exportPath := path }, none)
        | .error e => ({ b with files := fs }, some (.plain (if b.compress then "failed to encode export: " ++ e else e)))

def summary (b : MemoryBackend) : ExportSummary :=
  match b.session with
  | none => {}
  | some s => (b.recording s).summary

end MemoryBackend

end Storage
end JuryCaptions
