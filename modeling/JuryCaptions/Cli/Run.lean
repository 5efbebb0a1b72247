import JuryCaptions.Cli.Commands
import JuryCaptions.Cli.Client
import JuryCaptions.Transcript.Read
import JuryCaptions.Transcript.Write
import JuryCaptions.Transcript.Merge
import JuryCaptions.Playback.Schedule
import JuryCaptions.Caption.Script
import JuryCaptions.Config.Settings
/-!
Running the `captioner` program on a file tree. A failure is printed twice on
the error output, once after `Error: `, and ends the run with code 1; a crash
with code 2. A run that gets as far as serving is not followed further.
-/

namespace JuryCaptions
namespace Cli

open CommandLine

/-- What a run of the program works on and what it prints. -/
structure Console where
  files : Files
  /-- The working directory, a clean absolute path. -/
  cwd : String
  /-- What was printed on the standard output. -/
  out : String := ""
  /-- What was printed on the error output, logs left out. -/
  err : String := ""
  deriving Inhabited

inductive Stop where
  /-- It failed with a message. -/
  | failed (message : String)
  /-- It crashed with a runtime error. -/
  | crashed (message : String)
  /-- It went on to serve at an address. -/
  | serving (addr : String)
  deriving Repr, Inhabited

inductive Exit where
  /-- With an exit code. -/
  | code (n : Nat)
  /-- With a runtime error, exit code 2. -/
  | crash (message : String)
  /-- Serving at an address, with no end in sight. -/
  | serving (addr : String)
  deriving Repr, Inhabited, BEq

/-- The steps of a command: they print and change files, and may stop early;
what they did before stopping stays done. -/
abbrev Action := ExceptT Stop (StateM Console)

def say (text : String) : Action Unit := modify fun c => { c with out := c.out ++ text }

def failWith {α : Type} (message : String) : Action α := throw (.failed message)

/-- A path as the program names it, made absolute against the working directory. -/
def Console.absolute (c : Console) (p : String) : String :=
  if p.startsWith "/" then Path.clean p else Path.join [c.cwd, p]

/-- The text of a file, or the failure of opening it; a directory reads as
nothing. -/
def readText (c : Console) (path : String) : Except String String :=
  match c.files.lookup (c.absolute path) with
  | .ok (.file t _) => .ok t
  | .ok _ => .ok ""
  | .error e => .error ("open " ++ path ++ ": " ++ e)

def writeText (path text : String) : Action Unit := do
  let c ← get
  match c.files.write (c.absolute path) text false with
  | .ok fs => set { c with files := fs }
  | .error e => failWith ("open " ++ path ++ ": " ++ e)

def readTranscript (path : String) : Action (List Transcript.Cue) := do
  let text ← match readText (← get) path with
    | .ok t => pure t
    | .error e => failWith ("open " ++ path ++ ": " ++ e)
  match Transcript.parse text with
  | .ok cues => pure cues
  | .error f => failWith ("parse " ++ path ++ ": " ++ f.message)

def captionDocument (c : Caption) : Json :=
  .obj [("text", .str c.text), ("message_id", .int c.messageId), ("chunk_id", .int c.chunkId),
    ("delay", .float c.delay), ("speaker_id", .str c.speaker)]

/-- A caption script as written: indented JSON, `null` when there are no captions. -/
def scriptText (cs : List Caption) : String :=
  if cs.isEmpty then "null" else Json.indented "  " (.arr (cs.map captionDocument))

def loadScript (path : String) : Action (List Caption) := do
  let text ← match readText (← get) path with
    | .ok t => pure t
    | .error e => failWith ("read captions: " ++ e)
  match Script.parse (Utf8.encode text) with
  | .ok cs => pure cs
  | .error f => failWith f.message

/-- The directory a transcript command works in: its argument, or the working
directory. -/
def dirArg (args : List String) : String := args.headD "."

def runVersion : Action Unit := say (appName ++ " " ++ version ++ " (built " ++ buildDate ++ ")\n")

def runMerge (flags : Parsed) (args : List String) : Action Unit := do
  let dir := dirArg args
  let part := flags.int sectionFlag
  let given := flags.get outFlag
  let out := if given.isEmpty then
      Path.join [dir, if part > 0 then "merged_captions." ++ toString part ++ ".json" else "merged_captions.json"]
    else given
  let transcripts ← Juror.all.mapM fun j => do
    let cues ← readTranscript (Path.join [dir, Transcript.fileName j.id part])
    pure (j.id, cues)
  let captions := Transcript.merge fun id => (transcripts.find? (·.1 == id)).map (·.2)
  writeText out (scriptText captions)
  say ("Wrote " ++ toString captions.length ++ " captions to " ++ out ++ "\n")

def cutVideo (ffmpeg input output : String) (start stop : Duration) : Action Unit := do
  let c ← get
  let (fs, fault) := Playback.cut c.files c.cwd ffmpeg input output start stop false
  set { c with files := fs }
  match fault with
  | some f => failWith f.message
  | none => pure ()

/-- Cuts every juror's transcript, and with `--videos` every juror's video,
into sections. -/
def runPartition (flags : Parsed) (args : List String) : Action Unit := do
  let dir := dirArg args
  let videos := flags.get videosFlag
  let ffmpeg := flags.get ffmpegFlag
  let bounds := Transcript.defaultBounds
  for j in Juror.all do
    let cues ← readTranscript (Path.join [dir, Transcript.fileName j.id 0])
    for (part, i) in ((Transcript.partition cues bounds).getD []).zipIdx do
      writeText (Path.join [dir, Transcript.fileName j.id (i + 1)]) (Transcript.render part)
  say ("Partitioned transcripts into " ++ toString (bounds.length - 1) ++ " sections\n")
  if !videos.isEmpty then
    for j in Juror.all do
      let input := Path.join [videos, j.id ++ ".mp4"]
      for ((start, stop), i) in (bounds.zip bounds.tail).zipIdx do
        cutVideo ffmpeg input (Path.join [videos, j.id ++ "." ++ toString (i + 1) ++ ".mp4"]) start stop
    say ("Cut videos in " ++ videos ++ "\n")

def runClient (dialer : Dialer) (flags : Parsed) (args : List String) : Action Unit := do
  match Blank.fields (args.headD "") with
  | [] => throw (.crashed "runtime error: index out of range [0] with length 0")
  | addr :: _ =>
    match dial dialer addr with
    | .error e => failWith ("connect to " ++ addr ++ ": " ++ e)
    | .ok bytes =>
      let (text, stop) := printCaptions (Display.ofWidth (flags.int widthFlag)) bytes
      say text
      match stop with
      | some e => failWith e
      | none => pure ()

/-- The configuration from the configuration directory, or the defaults when it
cannot be read. -/
def loadConfig (flags : Parsed) : Action Config.Source := do
  let c ← get
  let path := c.absolute (Path.join [flags.get configDirFlag, Config.fileName])
  let text := match c.files.lookup path with
    | .ok (.file t _) => some t
    | _ => none
  pure ((Config.load [] (flags.get configDirFlag) text).toOption.getD {})

/-- The value of a flag that stands for a setting: the flag when it was given. -/
def overriding (flags : Parsed) (f : Flag) (setting : String) : String :=
  if flags.changed f then flags.get f else setting

/-- Serves captions: loads the caption script and the focus settings, then
serves. -/
def runServe (flags : Parsed) : Action Unit := do
  let src ← loadConfig flags
  let cfg := src.server
  let _ ← loadScript (overriding flags serveCaptionsFlag cfg.captionsFile)
  match src.focus with
  | .error e => failWith e
  | .ok _ => pure ()
  let port := overriding flags portFlag (toString cfg.port)
  throw (.serving (cfg.host ++ ":" ++ port))

/-- Runs the caption scene: loads the caption script and checks the rendering
method, then serves. -/
def runView (flags : Parsed) : Action Unit := do
  let src ← loadConfig flags
  let cfg := src.viewer
  let path := flags.get viewCaptionsFlag
  if !path.isEmpty then
    let _ ← loadScript path
  if flags.bool recordFlag then
    match RenderingMethod.parse (flags.int viewMethodFlag) with
    | .error f => failWith f.message
    | .ok _ => pure ()
  throw (.serving (overriding flags addrFlag cfg.addr))

def rawQuoted (s : String) : String :=
  if s.any fun c => c == '\x60' || c == '﻿' || c == '\x7f' || (c.toNat < 0x20 && c != '\t') then
    Quote.quoted s
  else "\x60" ++ s ++ "\x60"

def runHelp (args : List String) : Action Unit := do
  match find root args with
  | .ok (p, _) => say p.help
  | .error _ =>
    modify fun c => { c with err := c.err ++ "Unknown help topic [" ++ " ".intercalate (args.map rawQuoted) ++ "]\n" ++
      (Place.mk [] root).usage }

def runScript (script : String → String → String) (flags : Parsed) : Action Unit :=
  say (script appName (requestWord !(flags.bool noDescriptionsFlag)))

def perform (dialer : Dialer) (p : Place) (flags : Parsed) (args : List String) : Action Unit :=
  match p.path with
  | "captioner completion bash" => runScript bashScript flags
  | "captioner completion zsh" => runScript zshScript flags
  | "captioner completion fish" => runScript fishScript flags
  | "captioner completion powershell" => runScript powershellScript flags
  | "captioner version" => runVersion
  | "captioner merge-vtt" => runMerge flags args
  | "captioner partition-vtt" => runPartition flags args
  | "captioner client" => runClient dialer flags args
  | "captioner serve" => runServe flags
  | "captioner view" => runView flags
  | "captioner help" => runHelp args
  | _ => pure ()

def Console.complain (c : Console) (message : String) : Console :=
  { c with err := c.err ++ "Error: " ++ message ++ "\n" ++ message ++ "\n" }

def runFound (dialer : Dialer) (c : Console) (p : Place) (rest : List String) : Console × Exit :=
  match prepare p rest with
  | .error message => (c.complain message, .code 1)
  | .ok (.help q) => ({ c with out := c.out ++ q.help }, .code 0)
  | .ok (.run q flags args) =>
    match (perform dialer q flags args).run.run c with
    | (.ok (), c) => (c, .code 0)
    | (.error (.failed message), c) => (c.complain message, .code 1)
    | (.error (.crashed message), c) =>
      ({ c with err := c.err ++ "panic: " ++ message ++ "\n\ngoroutine 1 [running]:\n" }, .crash message)
    | (.error (.serving addr), c) => (c, .serving addr)

/-- Lists the completions of the words left; the word that named the command
says whether descriptions are wanted. -/
def runComplete (c : Console) (args rest : List String) : Console × Exit :=
  if rest.isEmpty then (c.complain "requires at least 1 arg(s), only received 0", .code 1)
  else
    let typed := (nonFlagWords (Place.mk [] root).flags (args.length + 1) args).headD ""
    ({ c with out := c.out ++ completionText root rest (typed != completeNoDescWord) }, .code 0)

def execute (dialer : Dialer) (c : Console) (args : List String) : Console × Exit :=
  match find root args with
  | .error (p, message) =>
    ({ c with err := c.err ++ "Error: " ++ message ++ "\nRun '" ++ p.path ++ " --help' for usage.\n" ++
      message ++ "\n" }, .code 1)
  | .ok (p, rest) =>
    if p.command.name == completeCommand.name then runComplete c args rest else runFound dialer c p rest

/-- The files a command line may read, as it names them: the configuration
file, and the transcripts, caption scripts and video tool of its command. -/
def inputsOf (args : List String) : List String :=
  match request root args with
  | .ok (.run p flags rest) =>
    let config := Path.join [flags.get configDirFlag, Config.fileName]
    let dir := dirArg rest
    config :: match p.path with
      | "captioner merge-vtt" =>
        Juror.all.map fun j => Path.join [dir, Transcript.fileName j.id (flags.int sectionFlag)]
      | "captioner partition-vtt" =>
        (Juror.all.map fun j => Path.join [dir, Transcript.fileName j.id 0]) ++
          (if Path.hasSlash (flags.get ffmpegFlag) then [flags.get ffmpegFlag] else [])
      | "captioner serve" => if flags.changed serveCaptionsFlag then [flags.get serveCaptionsFlag] else []
      | "captioner view" => if flags.changed viewCaptionsFlag then [flags.get viewCaptionsFlag] else []
      | _ => []
  | _ => []

end Cli
end JuryCaptions
