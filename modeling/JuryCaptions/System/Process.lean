import JuryCaptions.Shell.Run
import JuryCaptions.Text.Quote
import JuryCaptions.Text.Utf8
/-!
Starting programs as processes. A name without a slash is searched for on the
search path; starting fails after `fork/exec` and the path. A process ends with
`exit status N` or a signal, and what it wrote is read back as UTF-8.
-/

namespace JuryCaptions
namespace Process

open Shell

def signalName (n : Nat) : String :=
  match n with
  | 1 => "hangup" | 2 => "interrupt" | 3 => "quit" | 4 => "illegal instruction"
  | 5 => "trace/breakpoint trap" | 6 => "aborted" | 7 => "bus error"
  | 8 => "floating point exception" | 9 => "killed" | 10 => "user defined signal 1"
  | 11 => "segmentation fault" | 12 => "user defined signal 2" | 13 => "broken pipe"
  | 14 => "alarm clock" | 15 => "terminated" | 16 => "stack fault" | 17 => "child exited"
  | 18 => "continued" | 19 => "stopped (signal)" | 20 => "stopped" | 21 => "stopped (tty input)"
  | 22 => "stopped (tty output)" | 23 => "urgent I/O condition" | 24 => "CPU time limit exceeded"
  | 25 => "file size limit exceeded" | 26 => "virtual timer expired"
  | 27 => "profiling timer expired" | 28 => "window changed" | 29 => "I/O possible"
  | 30 => "power failure" | 31 => "bad system call"
  | _ => "signal " ++ toString n

/-- How a process ended, as a failure, or `none` for a clean exit. -/
def Ending.failure : Ending → Option String
  | .code 0 => none
  | .code n => some ("exit status " ++ toString n)
  | .signal n => some ("signal: " ++ signalName n)
  | .stopped => some ("signal: " ++ signalName 9)

/-- Whether a path names a file that may be run; the reason when not. -/
def checkRunnable (files : Files) (cwd path : String) : Except String Unit :=
  let full := if path.startsWith "/" then path else Path.join [cwd, path]
  match files.lookup full with
  | .error e => .error ("stat " ++ path ++ ": " ++ e)
  | .ok .dir => .error "is a directory"
  | .ok (.file _ false) => .error "permission denied"
  | .ok _ => .ok ()

/-- Looks a program up by name: the path to run, or why there is none. -/
def lookPath (files : Files) (cwd name : String) : Except String String :=
  let fail (why : String) : Except String String := .error ("exec: " ++ Quote.quoted name ++ ": " ++ why)
  if Path.hasSlash name then
    match checkRunnable files cwd name with
    | .ok () => .ok name
    | .error e => fail e
  else
    match searchPath.find? (fun d => (checkRunnable files cwd (d ++ "/" ++ name)).toOption.isSome) with
    | some d => if name.isEmpty then fail "executable file not found in $PATH" else .ok (d ++ "/" ++ name)
    | none => fail "executable file not found in $PATH"

structure Outcome where
  files : Files
  /-- Its standard output (1) and error (2), in the order written, as byte text. -/
  output : List (Nat × String)
  ending : Ending
  deriving Inhabited

def Outcome.combined (o : Outcome) : String := Utf8.fromBytes (String.join (o.output.map (·.2)))

def budget : Nat := 100000

/-- Starts `path` with arguments and runs it to its end, reading `input`;
`waitStops` makes the process stop for good where it waits. -/
def start (files : Files) (cwd path : String) (args : List String) (input : String)
    (waitStops : Bool) : Except String Outcome :=
  let bytes := Utf8.asBytes
  let p : Proc := { files := files.mapText bytes, params := default, cwd := bytes cwd, waitStops := waitStops,
                    streams := [bytes input] }
  let full := if path.startsWith "/" then path else Path.join [cwd, path]
  match startProgram budget p (bytes full) (bytes path) (args.map bytes) [] with
  | (_, .error e) => .error ("fork/exec " ++ path ++ ": " ++ e.reason)
  | (q, .ok e) => .ok { files := q.files.mapText Utf8.fromBytes, output := q.output, ending := e }

/-- Runs a command the way a program names it: looked up first when the name
has no slash, and not started at all when cancelled. -/
def run (files : Files) (cwd name : String) (args : List String) (input : String)
    (waitStops cancelled : Bool) : Except String Outcome := do
  let path ← if Path.hasSlash name then pure name else lookPath files cwd name
  if cancelled then throw "context canceled"
  start files cwd path args input waitStops

end Process
end JuryCaptions
