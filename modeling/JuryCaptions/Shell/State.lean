import JuryCaptions.Shell.Parser
import JuryCaptions.Shell.Expand
import JuryCaptions.System.Files
/-!
The state of a running shell and its processes. A process writes to standard
output and error, collected in order, or through redirections to files, to
nowhere, or to a capture a pipe or substitution reads.
-/

namespace JuryCaptions
namespace Shell

inductive Sink where
  | stdout
  | stderr
  | file (path : String)
  | null
  /-- Collected for a pipe or a command substitution. -/
  | capture
  deriving Repr, Inhabited, BEq

/-- The open descriptors: the stream read on 0, the streams read on the
others that read, and where the others write. -/
structure Fds where
  input : Nat := 0
  readers : List (Nat × Nat) := []
  sinks : List (Nat × Sink) := [(1, .stdout), (2, .stderr)]
  deriving Inhabited

namespace Fds

def sink (fds : Fds) (fd : Nat) : Sink := ((fds.sinks.find? (·.1 == fd)).map (·.2)).getD .null

def point (fds : Fds) (fd : Nat) (s : Sink) : Fds :=
  { fds with sinks := (fd, s) :: fds.sinks.filter (·.1 != fd), readers := fds.readers.filter (·.1 != fd) }

def readFrom (fds : Fds) (fd stream : Nat) : Fds :=
  if fd == 0 then { fds with input := stream }
  else { fds with readers := (fd, stream) :: fds.readers.filter (·.1 != fd), sinks := fds.sinks.filter (·.1 != fd) }

def close (fds : Fds) (fd : Nat) : Fds :=
  { fds with readers := fds.readers.filter (·.1 != fd), sinks := fds.sinks.filter (·.1 != fd) }

def reader? (fds : Fds) (fd : Nat) : Option Nat :=
  if fd == 0 then some fds.input else (fds.readers.find? (·.1 == fd)).map (·.2)

end Fds

inductive Ending where
  | code (n : Nat)
  | signal (n : Nat)
  /-- Stopped while waiting, to be killed by its owner. -/
  | stopped
  deriving Repr, Inhabited, BEq

def Ending.status : Ending → Nat
  | .code n => n
  | .signal n => 128 + n
  | .stopped => 137

/-- How running a command left the script: going on, ended, returning from a
function, or leaving loops. -/
inductive Flow where
  | next
  | finish (e : Ending)
  | returned
  /-- `break`, out of this many loops. -/
  | broke (n : Nat)
  /-- `continue`, with the loop this many loops out. -/
  | continued (n : Nat)
  deriving Repr, Inhabited

inductive StartFailure where
  /-- The file or an element of its path is missing, with the reason. -/
  | missing (reason : String)
  /-- The file may not be run. -/
  | denied
  /-- The file is not a program the system can run. -/
  | badFormat
  deriving Repr, Inhabited

def StartFailure.reason : StartFailure → String
  | .missing r => r
  | .denied => "permission denied"
  | .badFormat => "exec format error"

/-- A running process and the world it shares with the others. -/
structure Proc where
  files : Files
  /-- What processes wrote to the standard output (1) and error (2), in order. -/
  output : List (Nat × String) := []
  captured : String := ""
  /-- The text each input stream has left; stream 0 is the first input. -/
  streams : List String := [""]
  fds : Fds := {}
  params : Params
  cwd : String
  /-- Whether waiting stops the process for good. -/
  waitStops : Bool := false
  /-- The file creation mask: the permissions new files do not get. -/
  mask : Nat := 18
  nextPid : Nat := 100
  funcs : List (String × Command) := []
  /-- The action for each trapped signal, 0 standing for the exit of the shell. -/
  traps : List (Nat × String) := []
  /-- The signals ignored when the process started, which it keeps ignoring. -/
  ignoredAtStart : List Nat := []
  /-- The loops around the command being run, inside the current function. -/
  loops : Nat := 0
  inFunction : Bool := false
  /-- The values that `local` hid, to put back when the function returns. -/
  hidden : List (String × Option String) := []
  /-- The status of the last command substitution of the command being expanded. -/
  substStatus : Option Nat := none
  line : Nat := 1
  /-- The statuses of the processes run in the background, by process number. -/
  jobs : List (Nat × Nat) := []
  /-- The background processes still waiting in `sleep`, by process number. -/
  sleepers : List Nat := []
  /-- The status the shell is exiting with while its exit trap runs. -/
  exiting : Option Nat := none
  /-- `eval` or `.` while it runs its text: the shell's own messages then
  name it after the line number. -/
  runningText : Option String := none
  /-- The streams read from regular files, with the size of each file. -/
  fileStreams : List (Nat × Nat) := []
  /-- Where `getopts` stopped: the `OPTIND` it set and the offset in the argument
  it was reading, if it stopped inside one. -/
  optionCursor : Nat × Option Nat := (1, none)
  /-- The signal that killed the shell in the middle of a command, such as
  the floating point exception of a division that traps. -/
  killedBy : Option Nat := none
  /-- The aliases, in the order they were first made. -/
  aliases : List (String × String) := []
  /-- The processes run in the background that a signal ended and that no
  waiting has collected yet, by process number, with the signal. -/
  signalled : List (Nat × Nat) := []
  deriving Inhabited

def searchPath : List String := ["/usr/local/sbin", "/usr/local/bin", "/usr/sbin", "/usr/bin", "/sbin", "/bin"]

def shellDefaults : List (String × String) :=
  [("IFS", " \t\n"), ("OPTIND", "1"), ("PATH", ":".intercalate searchPath), ("PS1", "$ "), ("PS2", "> "),
   ("PS4", "+ ")]

def signalNames : List (String × Nat) :=
  [("HUP", 1), ("INT", 2), ("QUIT", 3), ("ILL", 4), ("TRAP", 5), ("ABRT", 6), ("BUS", 7), ("FPE", 8),
   ("KILL", 9), ("USR1", 10), ("SEGV", 11), ("USR2", 12), ("PIPE", 13), ("ALRM", 14), ("TERM", 15),
   ("CHLD", 17), ("CONT", 18), ("STOP", 19), ("TSTP", 20), ("TTIN", 21), ("TTOU", 22),
   ("URG", 23), ("XCPU", 24), ("XFSZ", 25), ("VTALRM", 26), ("PROF", 27), ("WINCH", 28), ("IO", 29),
   ("PWR", 30), ("SYS", 31)]

/-- The name a table gives a signal, if any; the real-time signals from 34 to 64
are `RTMIN`, `RTMIN+1` to `RTMIN+15`, `RTMAX-14` to `RTMAX-1` and `RTMAX`. -/
def signalNameIn (table : List (String × Nat)) (n : Nat) : Option String :=
  match table.find? (·.2 == n) with
  | some (name, _) => some name
  | none =>
    if n == 34 then some "RTMIN"
    else if 35 ≤ n && n ≤ 49 then some ("RTMIN+" ++ toString (n - 34))
    else if 50 ≤ n && n ≤ 63 then some ("RTMAX-" ++ toString (64 - n))
    else if n == 64 then some "RTMAX"
    else none

/-- The name of a signal in the shell's messages. -/
def signalName? (n : Nat) : Option String := signalNameIn signalNames n

def signalDescription (n : Nat) : String :=
  match n with
  | 1 => "Hangup" | 2 => "Interrupt" | 3 => "Quit" | 4 => "Illegal instruction"
  | 5 => "Trace/breakpoint trap" | 6 => "Aborted" | 7 => "Bus error"
  | 8 => "Floating point exception" | 9 => "Killed" | 10 => "User defined signal 1"
  | 11 => "Segmentation fault" | 12 => "User defined signal 2" | 13 => "Broken pipe"
  | 14 => "Alarm clock" | 15 => "Terminated" | 16 => "Stack fault" | 17 => "Child exited"
  | 18 => "Continued" | 19 => "Stopped (signal)" | 20 => "Stopped" | 21 => "Stopped (tty input)"
  | 22 => "Stopped (tty output)" | 23 => "Urgent I/O condition" | 24 => "CPU time limit exceeded"
  | 25 => "File size limit exceeded" | 26 => "Virtual timer expired"
  | 27 => "Profiling timer expired" | 28 => "Window changed" | 29 => "I/O possible"
  | 30 => "Power failure" | 31 => "Bad system call"
  | _ => if 34 ≤ n && n ≤ 64 then "Real-time signal " ++ toString (n - 34) else "Unknown signal " ++ toString n

def signalNumber (s : String) : Option Nat :=
  let s := s.toUpper
  let s := if s.startsWith "SIG" then (s.drop 3).toString else s
  match s.toNat? with
  | some n => if n < 65 then some n else none
  | none => (List.range 64).find? (fun i => signalName? (i + 1) == some s) |>.map (· + 1)

def trapCondition (s : String) : Option Nat :=
  if s.toUpper == "EXIT" then some 0 else signalNumber s

def conditionName (n : Nat) : String :=
  if n == 0 then "EXIT" else (signalName? n).getD (toString n)

def shellQuote (s : String) : String :=
  let rec go : Nat → List Char → String
    | 0, _ => ""
    | f + 1, cs =>
      let plain := cs.takeWhile (· != '\'')
      let rest := cs.drop plain.length
      let quotes := rest.takeWhile (· == '\'')
      let more := rest.drop quotes.length
      "'" ++ String.ofList plain ++ "'" ++
        (if quotes.isEmpty then "" else "\"" ++ String.ofList quotes ++ "\"" ++ (if more.isEmpty then "" else go f more))
  go (s.length + 1) s.toList

namespace Proc

def status (p : Proc) : Nat := p.params.status

def setStatus (p : Proc) (n : Nat) : Proc := { p with params := { p.params with status := n } }

def option (p : Proc) (c : Char) : Bool := p.params.flags.contains c

def setOption (p : Proc) (c : Char) (on : Bool) : Proc :=
  let rest := p.params.flags.toList.filter (· != c)
  { p with params := { p.params with flags := String.ofList (if on then rest ++ [c] else rest) } }

def resolve (p : Proc) (path : String) : String :=
  if path.startsWith "/" then Path.clean path else Path.join [p.cwd, path]

/-- The tree after a write that may have made a file: a new file gets the read
and write permissions the creation mask leaves. -/
def madeFile (p : Proc) (fs : Files) (path : String) : Files :=
  if (p.files.get? path).isSome then fs
  else
    let m := 0o666 &&& (0o7777 ^^^ p.mask)
    if m == 0o644 then fs else fs.setMode path m

def emit (p : Proc) (fd : Nat) (text : String) : Proc :=
  if text.isEmpty then p
  else match p.fds.sink fd with
    | .stdout => { p with output := p.output ++ [(1, text)] }
    | .stderr => { p with output := p.output ++ [(2, text)] }
    | .file path =>
      match p.files.write path text true with
      | .ok fs => { p with files := fs }
      | .error _ => p
    | .null => p
    | .capture => { p with captured := p.captured ++ text }

def complain (p : Proc) (msg : String) : Proc :=
  let under := match p.runningText with
    | some n => n ++ ": "
    | none => ""
  p.emit 2 (p.params.arg0 ++ ": " ++ toString p.line ++ ": " ++ under ++ msg ++ "\n")

def var? (p : Proc) (name : String) : Option String := (p.params.vars.find? (·.1 == name)).map (·.2)

/-- The process of a job named by `%…`: `%%`, `%+` or `%` the last started, `%-`
the one before, `%N` the Nth. -/
def jobProcess (p : Proc) (spec : String) : Option Nat :=
  let pids := p.jobs.map (·.1)
  match (spec.drop 1).toString with
  | "" | "%" | "+" => pids.getLast?
  | "-" => if pids.length ≥ 2 then pids[pids.length - 2]? else none
  | n => (n.toNat?).bind fun k => if k ≥ 1 then pids[k - 1]? else none

def setVar (p : Proc) (name value : String) : Except String Proc :=
  if p.params.readonly.contains name then .error (name ++ ": is read only")
  else
    let exported := if p.option 'a' && !p.params.exported.contains name then p.params.exported ++ [name]
      else p.params.exported
    .ok { p with params := { p.params with vars := p.params.vars.filter (·.1 != name) ++ [(name, value)], exported } }

def unsetVar (p : Proc) (name : String) : Except String Proc :=
  if p.params.readonly.contains name then .error (name ++ ": is read only")
  else .ok { p with params := { p.params with vars := p.params.vars.filter (·.1 != name),
                                              exported := p.params.exported.filter (· != name) } }

def restoreVar (p : Proc) (name : String) (value : Option String) : Proc :=
  let vars := p.params.vars.filter (·.1 != name)
  { p with params := { p.params with vars := match value with
                                              | some v => vars ++ [(name, v)]
                                              | none => vars } }

def exportVar (p : Proc) (name : String) : Proc :=
  if p.params.exported.contains name then p
  else { p with params := { p.params with exported := p.params.exported ++ [name] } }

def markReadonly (p : Proc) (name : String) : Proc :=
  if p.params.readonly.contains name then p
  else { p with params := { p.params with readonly := p.params.readonly ++ [name] } }

def pending (p : Proc) : String := (p.streams[p.fds.input]?).getD ""

def setPending (p : Proc) (t : String) : Proc :=
  { p with streams := p.streams.set p.fds.input t }

def readAll (p : Proc) : String × Proc := (p.pending, p.setPending "")

def openStreamOn (p : Proc) (fd : Nat) (t : String) : Proc :=
  { p with streams := p.streams ++ [t], fds := p.fds.readFrom fd p.streams.length }

def openStream (p : Proc) (t : String) : Proc := p.openStreamOn 0 t

def openFileOn (p : Proc) (fd : Nat) (t : String) : Proc :=
  { p.openStreamOn fd t with fileStreams := (p.streams.length, t.length) :: p.fileStreams }

def inputSize (p : Proc) : Option Nat := (p.fileStreams.find? (·.1 == p.fds.input)).map (·.2)

def redirect (p : Proc) (fd : Nat) (kind : RedirectKind) (target : String) : Except String Proc :=
  let special : Option Sink := match target with
    | "/dev/null" => some .null
    | "/dev/stdout" => some (p.fds.sink 1)
    | "/dev/stderr" => some (p.fds.sink 2)
    | _ => none
  let why (e : String) : String :=
    if e == "is a directory" then "Is a directory"
    else if e == "not a directory" then "Not a directory"
    else if e == "text file busy" then "Text file busy"
    else "Directory nonexistent"
  match kind with
  | .write | .overwrite | .append =>
    match special with
    | some s => .ok { p with fds := p.fds.point fd s }
    | none =>
      let path := p.resolve target
      let present : Bool := match p.files.get? path with
        | some (.file _ _) | some (.tool _) => true
        | _ => false
      if kind == .write && p.option 'C' && present then .error ("cannot create " ++ target ++ ": File exists")
      else
        match p.files.writeNamed path target "" (kind == .append) with
        | .ok fs => .ok { p with files := p.madeFile fs path, fds := p.fds.point fd (.file path) }
        | .error e => .error ("cannot create " ++ target ++ ": " ++ why e)
  | .readWrite =>
    if fd == 1 || fd == 2 then
      match special with
      | some s => .ok { p with fds := p.fds.point fd s }
      | none =>
        let path := p.resolve target
        match p.files.writeNamed path target "" true with
        | .ok fs => .ok { p with files := fs, fds := p.fds.point fd (.file path) }
        | .error e => .error ("cannot create " ++ target ++ ": " ++ why e)
    else
      match special with
      | some _ => .ok (p.openStreamOn fd "")
      | none =>
        let path := p.resolve target
        match p.files.read path with
        | .ok t => .ok (p.openFileOn fd t)
        | .error _ =>
          match p.files.write path "" true with
          | .ok fs => .ok ({ p with files := fs }.openFileOn fd "")
          | .error e => .error ("cannot create " ++ target ++ ": " ++ why e)
  | .read =>
    match special with
    | some _ => .ok (p.openStreamOn fd "")
    | none =>
      match p.files.read (p.resolve target) with
      | .ok t => .ok (p.openFileOn fd t)
      | .error _ => .error ("cannot open " ++ target ++ ": No such file")
  | .here => .ok (p.openStreamOn fd target)
  | .copy =>
    if target == "-" then .ok { p with fds := if fd == 0 then p.fds.point fd .null else p.fds.close fd }
    else match target.toNat? with
      | some n =>
        match p.fds.reader? n with
        | some stream => .ok { p with fds := p.fds.readFrom fd stream }
        | none =>
          if (p.fds.sinks.find? (·.1 == n)).isSome then
            if fd == 0 then .ok p else .ok { p with fds := p.fds.point fd (p.fds.sink n) }
          else .error (target ++ ": Bad file descriptor")
      | none => .error (target ++ ": Bad file descriptor")

def redirectAll (p : Proc) : List (Nat × RedirectKind × String) → Except String Proc
  | [] => .ok p
  | (fd, kind, target) :: rs =>
    match p.redirect fd kind target with
    | .ok p => p.redirectAll rs
    | .error e => .error e

def findProgram (p : Proc) (name : String) : Option String :=
  let dirs := match p.var? "PATH" with
    | some path => (path.splitOn ":").map fun (d : String) => if d.isEmpty then p.cwd else p.resolve d
    | none => searchPath
  if Path.hasSlash name then some (p.resolve name)
  else dirs.findSome? fun d =>
    let q := Path.join [d, name]
    match p.files.get? q with
    | some (.tool _) => some q
    | some (.file _ true) => some q
    | _ => none

def environment (p : Proc) (extra : List (String × String)) : List (String × String) :=
  let base := p.params.vars.filter fun (n, _) => p.params.exported.contains n
  (base.filter fun (n, _) => !extra.any (·.1 == n)) ++ extra

def ignoredSignals (p : Proc) : List Nat :=
  (p.ignoredAtStart ++ (p.traps.filter fun (n, a) => n != 0 && a.isEmpty).map (·.1)).eraseDups

def child (p : Proc) (arg0 : String) (args : List String) (env : List (String × String)) : Proc :=
  { p with params := { arg0 := arg0, positional := args, status := 0, pid := p.nextPid,
                       vars := env.filter (·.1 != "PPID") ++ [("PPID", toString (max p.params.pid 1))] ++
                         shellDefaults.filter (fun (n, _) => !env.any (·.1 == n)),
                       exported := env.map (·.1) },
           nextPid := p.nextPid + 1, funcs := [], traps := [], ignoredAtStart := p.ignoredSignals,
           loops := 0, inFunction := false, hidden := [],
           jobs := [], sleepers := [], substStatus := none, exiting := none, runningText := none, aliases := [],
           signalled := [] }

def rejoin (p c : Proc) : Proc :=
  { p with files := c.files, output := c.output, captured := c.captured, nextPid := c.nextPid,
           streams := c.streams }

def query (p : Proc) (path : String) : Option Files.Found :=
  if path.isEmpty then none else p.files.find? (p.resolve path)

end Proc

end Shell
end JuryCaptions
