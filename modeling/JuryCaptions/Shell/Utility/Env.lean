import JuryCaptions.Shell.Utility
import JuryCaptions.Shell.State
import JuryCaptions.Number.ExtendedRead
/-!
The environment of a program: what `env` is asked to run it in, what
`printenv` writes, and the intervals `sleep` accepts.
-/

namespace JuryCaptions
namespace Shell

def systemSignals : List (String × Nat) :=
  [("HUP", 1), ("INT", 2), ("QUIT", 3), ("ILL", 4), ("TRAP", 5), ("ABRT", 6), ("BUS", 7), ("FPE", 8),
   ("KILL", 9), ("USR1", 10), ("SEGV", 11), ("USR2", 12), ("PIPE", 13), ("ALRM", 14), ("TERM", 15),
   ("STKFLT", 16), ("CHLD", 17), ("CONT", 18), ("STOP", 19), ("TSTP", 20), ("TTIN", 21), ("TTOU", 22),
   ("URG", 23), ("XCPU", 24), ("XFSZ", 25), ("VTALRM", 26), ("PROF", 27), ("WINCH", 28), ("POLL", 29),
   ("PWR", 30), ("SYS", 31), ("IOT", 6), ("CLD", 17), ("IO", 29)]

/-- The name a program writes for a signal. -/
def systemSignalName? (n : Nat) : Option String := signalNameIn systemSignals n

def namedSignals : List Nat := (List.range 64).map (· + 1) |>.filter fun n => (systemSignalName? n).isSome

/-- The number of a signal operand: a number (an exit status past 128 names its
signal), or a name in any case, with or without `SIG`. -/
def readSignal (s : String) : Option Nat :=
  if s.toList.head?.any Char.isDigit then
    match s.toNat? with
    | some n =>
      let n := if n ≥ 255 then n % 256 else n % 128
      if n == 0 || (systemSignalName? n).isSome then some n else none
    | none => none
  else
    let up := s.toUpper
    let byName (t : String) : Option Nat :=
      match systemSignals.find? (·.1 == t) with
      | some (_, n) => some n
      | none =>
        if t == "EXIT" then some 0
        else if t == "RTMIN" then some 34
        else if t == "RTMAX" then some 64
        else if t.startsWith "RTMIN+" then
          ((t.drop 6).toString.toNat?).bind fun k => if k ≤ 15 then some (34 + k) else none
        else if t.startsWith "RTMAX-" then
          ((t.drop 6).toString.toNat?).bind fun k => if k ≤ 14 then some (64 - k) else none
        else none
    match byName up with
    | some n => some n
    | none => if up.startsWith "SIG" then byName (up.drop 3).toString else none

/-- What `env` sets a signal to before running its program; `quiet` when none
was named, so a signal that cannot be changed is passed over. -/
inductive SignalSetting where
  | toDefault (quiet : Bool)
  | ignore (quiet : Bool)
  deriving BEq, Inhabited

structure EnvRequest where
  /-- Whether to start from an empty environment. -/
  clear : Bool := false
  unset : List String := []
  dir : Option String := none
  /-- Whether the lines it writes end with a null byte. -/
  nul : Bool := false
  assigns : List (String × String) := []
  command : List String := []
  /-- Whether it writes each step on the error stream. -/
  debug : Bool := false
  /-- The steps written while the options are read. -/
  notes : String := ""
  /-- The handling each signal gets, the last choice for it. -/
  settings : List (Nat × SignalSetting) := []
  /-- The signals to block and to unblock, once an option changes the mask. -/
  mask : Option (List Nat × List Nat) := none
  /-- Whether to write the signals that are ignored or blocked. -/
  listHandling : Bool := false
  deriving Inhabited

/-- The state of splitting the string of `-S`: the words so far, the current
word, and whether a word has begun (quotes begin an empty one). -/
structure SplitState where
  words : List String := []
  word : String := ""
  started : Bool := false

def SplitState.close (s : SplitState) : SplitState :=
  if s.started then { words := s.words ++ [s.word] } else s

def SplitState.push (s : SplitState) (c : Char) : SplitState := { s with word := s.word.push c, started := true }

def splitEscape (c : Char) : Option Char :=
  match c with
  | '\\' => some '\\'
  | '\'' => some '\''
  | '"' => some '"'
  | '_' => some ' '
  | 't' => some '\t'
  | 'n' => some '\n'
  | 'r' => some '\r'
  | 'f' => some '\x0c'
  | 'v' => some '\x0b'
  | '#' => some '#'
  | '$' => some '$'
  | _ => none

def splitWords : Nat → List Char → SplitState → Except String (List String)
  | 0, _, s => .ok s.close.words
  | _ + 1, [], s => .ok s.close.words
  | f + 1, c :: rest, s =>
    if c == ' ' || c == '\t' || c == '\n' || c == '\x0b' || c == '\x0c' || c == '\r' then
      splitWords f rest s.close
    else if c == '#' && !s.started then .ok s.close.words
    else if c == '\'' then
      let body := rest.takeWhile (· != '\'')
      if body.length == rest.length then .error "no terminating quote in -S string"
      else splitWords f (rest.drop (body.length + 1)) (body.foldl SplitState.push { s with started := true })
    else if c == '"' then
      let rec quoted : Nat → List Char → SplitState → Except String (SplitState × List Char)
        | 0, _, _ => .error "no terminating quote in -S string"
        | _ + 1, [], _ => .error "no terminating quote in -S string"
        | _ + 1, '"' :: more, s => .ok (s, more)
        | g + 1, '\\' :: e :: more, s =>
          match splitEscape e with
          | some x => quoted g more (s.push x)
          | none => .error ("invalid sequence '\\" ++ String.singleton e ++ "' in -S")
        | g + 1, x :: more, s => quoted g more (s.push x)
      match quoted (rest.length + 1) rest { s with started := true } with
      | .ok (s, more) => splitWords f more s
      | .error e => .error e
    else if c == '\\' then
      match rest with
      | [] => .error "invalid backslash at end of string in -S"
      | 'c' :: _ => .ok s.close.words
      | e :: more =>
        match splitEscape e with
        | some x => splitWords f more (s.push x)
        | none => .error ("invalid sequence '\\" ++ String.singleton e ++ "' in -S")
    else splitWords f rest (s.push c)

def envLong : List (String × Char) :=
  [("ignore-environment", 'i'), ("null", '0'), ("unset", 'u'), ("chdir", 'C'), ("split-string", 'S'),
   ("debug", 'v'), ("default-signal", longOnly 1), ("ignore-signal", longOnly 2), ("block-signal", longOnly 3),
   ("list-signal-handling", longOnly 4)]

/-- The signals a list of `--default-signal`, `--ignore-signal` or
`--block-signal` names, separated by commas; or the operand that is none. -/
def readSignalList (v : String) : Except String (List Nat) :=
  ((v.splitOn ",").filter (!·.isEmpty)).mapM fun s =>
    match readSignal s with
    | some n => if n == 0 then .error s else .ok n
    | none => .error s

namespace EnvRequest

def setSignals (r : EnvRequest) (named : Option (List Nat)) (toDefault : Bool) : EnvRequest :=
  let (ns, quiet) := match named with
    | some ns => (ns, false)
    | none => (namedSignals, true)
  let setting : SignalSetting := if toDefault then .toDefault quiet else .ignore quiet
  { r with settings := ns.foldl (fun acc n => (acc.filter (·.1 != n)) ++ [(n, setting)]) r.settings }

def maskSignals (r : EnvRequest) (named : Option (List Nat)) (block : Bool) : EnvRequest :=
  let (blocked, unblocked) := r.mask.getD ([], [])
  match named with
  | none =>
    let all := (List.range 64).map (· + 1) |>.filter fun n => n != 32 && n != 33
    { r with mask := some (if block then (all, []) else ([], all)) }
  | some ns =>
    let blocked := if block then blocked ++ ns else blocked.filter (!ns.contains ·)
    let unblocked := if block then unblocked.filter (!ns.contains ·) else unblocked ++ ns
    { r with mask := some (blocked, unblocked) }

end EnvRequest

def readEnvArgs : Nat → List String → EnvRequest → Except (String × Nat) EnvRequest
  | 0, _, r => .ok r
  | f + 1, args, r =>
    let bad (msg : String) : Except (String × Nat) EnvRequest := .error ("env: " ++ msg ++ "\n" ++ tryHelp "env", 125)
    let signals (v : Option String) (rest : List String) (next : Option (List Nat) → EnvRequest) :
        Except (String × Nat) EnvRequest :=
      match v.map readSignalList with
      | some (.error s) => bad (quoteText s ++ ": invalid signal")
      | some (.ok ns) => readEnvArgs f rest (next (some ns))
      | none => readEnvArgs f rest (next none)
    let apply (c : Char) (v : String) (rest : List String) : Except (String × Nat) EnvRequest :=
      match c with
      | 'i' => readEnvArgs f rest { r with clear := true }
      | '0' => readEnvArgs f rest { r with nul := true }
      | 'v' => readEnvArgs f rest { r with debug := true }
      | 'u' => readEnvArgs f rest { r with unset := r.unset ++ [v] }
      | 'C' => readEnvArgs f rest { r with dir := some v }
      | _ =>
        match splitWords (v.length + 1) v.toList {} with
        | .ok words =>
          let notes := if r.debug && !words.isEmpty then
              "split -S:  " ++ quoteText v ++ "\n" ++ String.join (words.zipIdx.map fun (w, k) =>
                (if k == 0 then " into:    " else "     &    ") ++ quoteText w ++ "\n")
            else ""
          readEnvArgs f (words ++ rest) { r with notes := r.notes ++ notes }
        | .error e => .error ("env: " ++ e ++ "\n", 125)
    match args with
    | [] => .ok r
    | "--" :: rest => finish rest r
    | a :: rest =>
      if a.startsWith "--" then
        let word := (a.drop 2).toString
        let name := (word.splitOn "=").headD ""
        let value? : Option String := if word.contains '=' then some (word.drop (name.length + 1)).toString else none
        let candidates := match envLong.find? (·.1 == name) with
          | some o => [o]
          | none => envLong.filter (·.1.startsWith name)
        match candidates with
        | [(full, c)] =>
          if c == longOnly 1 then signals value? rest fun ns => (r.setSignals ns true).maskSignals ns false
          else if c == longOnly 2 then signals value? rest fun ns => r.setSignals ns false
          else if c == longOnly 3 then signals value? rest fun ns => r.maskSignals ns true
          else if c == longOnly 4 then
            if value?.isSome then bad ("option '--" ++ full ++ "' doesn't allow an argument")
            else readEnvArgs f rest { r with listHandling := true }
          else if "uCS".toList.contains c then
            match value?, rest with
            | some v, _ => apply c v rest
            | none, v :: more => apply c v more
            | none, [] => bad ("option '--" ++ full ++ "' requires an argument")
          else if value?.isSome then bad ("option '--" ++ full ++ "' doesn't allow an argument")
          else apply c "" rest
        | [] => bad ("unrecognized option '" ++ a ++ "'")
        | _ => bad ("option '" ++ a ++ "' is ambiguous")
      else if a.startsWith "-" && a.length > 1 then
        match a.toList.drop 1 with
        | c :: more =>
          if "uCS".toList.contains c then
            if !more.isEmpty then apply c (String.ofList more) rest
            else match rest with
              | v :: rest => apply c v rest
              | [] => bad ("option requires an argument -- '" ++ String.singleton c ++ "'")
          else if "i0v".toList.contains c then
            if more.isEmpty then apply c "" rest else apply c "" (("-" ++ String.ofList more) :: rest)
          else bad ("invalid option -- '" ++ String.singleton c ++ "'")
        | [] => finish args r
      else finish args r
where
  /-- The words after the options: a lone `-`, the assignments, the program. -/
  finish (args : List String) (r : EnvRequest) : Except (String × Nat) EnvRequest :=
    let (r, args) := match args with
      | "-" :: rest => ({ r with clear := true }, rest)
      | _ => (r, args)
    let assigns := args.takeWhile (·.contains '=')
    let pairs := assigns.map fun a =>
      let name := (a.splitOn "=").headD ""
      (name, (a.drop (name.length + 1)).toString)
    .ok { r with assigns := pairs, command := args.drop assigns.length }

namespace EnvRequest

def step (r : EnvRequest) (s : String) : String := if r.debug then s else ""

/-- What `env -v` writes before looking for its program: the split strings, the
environment cleaned or names taken out, and each assignment. -/
def setup (r : EnvRequest) : String × Option String :=
  let (text, fault) : String × Option String :=
    if r.clear then (r.notes ++ r.step "cleaning environ\n", none)
    else r.unset.foldl (fun (text, fault) n =>
      match fault with
      | some _ => (text, fault)
      | none =>
        let text := text ++ r.step ("unset:    " ++ n ++ "\n")
        if n.isEmpty || n.contains '=' then (text, some ("env: cannot unset " ++ quoteText n ++ ": Invalid argument\n"))
        else (text, none)) (r.notes, none)
  match fault with
  | some _ => (text, fault)
  | none => (text ++ String.join (r.assigns.map fun (n, v) => r.step ("setenv:   " ++ n ++ "=" ++ v ++ "\n")), none)

def signalLabel (n : Nat) : String := (systemSignalName? n).getD (toString n) ++ " (" ++ toString n ++ ")"

/-- What `env` writes as it sets the signals of its program, with `-v` and
`--list-signal-handling`, given the signals ignored when it starts. -/
def signalSteps (r : EnvRequest) (ignored : List Nat) : String × Option String :=
  let fixed (n : Nat) : Bool := n == 9 || n == 19
  let chosen := (List.range 64).filterMap fun k => r.settings.find? (·.1 == k + 1)
  let (text, ignored, fault) := chosen.foldl (fun ((text : String), (ignored : List Nat), (fault : Option String))
      (n, setting) =>
    match fault with
    | some _ => (text, ignored, fault)
    | none =>
      let (toDefault, quiet) := match setting with
        | .toDefault q => (true, q)
        | .ignore q => (false, q)
      if fixed n && !quiet then
        (text, ignored, some ("env: failed to set signal action for signal " ++ toString n ++ ": Invalid argument\n"))
      else
        let ignored := if fixed n then ignored else if toDefault then ignored.erase n else ignored ++ [n]
        (text ++ r.step ("Reset signal " ++ signalLabel n ++ " to " ++ (if toDefault then "DEFAULT" else "IGNORE") ++
          (if fixed n then " (failure ignored)" else "") ++ "\n"), ignored, none)) ("", ignored, none)
  match fault with
  | some _ => (text, fault)
  | none =>
    let (block, unblock) := r.mask.getD ([], [])
    let text := text ++ String.join ((List.range 64).map fun k =>
      let n := k + 1
      if block.contains n then r.step ("signal " ++ signalLabel n ++ " mask set to BLOCK\n")
      else if unblock.contains n then r.step ("signal " ++ signalLabel n ++ " mask set to UNBLOCK\n")
      else "")
    let blocked := block.filter fun n => !fixed n
    let listed := if !r.listHandling then "" else String.join ((List.range 64).map fun k =>
      let n := k + 1
      let ign := ignored.contains n
      let blk := blocked.contains n
      if !ign && !blk then ""
      else
        let name := (systemSignalName? n).getD (toString n)
        let num := toString n
        name ++ String.ofList (List.replicate (10 - name.length) ' ') ++ " (" ++
          String.ofList (List.replicate (2 - num.length) ' ') ++ num ++ "): " ++
          (if blk then "BLOCK" else "") ++ (if blk && ign then "," else "") ++ (if ign then "IGNORE" else "") ++ "\n")
    (text ++ listed, none)

def runSteps (r : EnvRequest) : String :=
  match r.command with
  | [] => ""
  | prog :: _ =>
    r.step ("executing: " ++ prog ++ "\n" ++
      String.join (r.command.zipIdx.map fun (a, k) => "   arg[" ++ toString k ++ "]= " ++ quoteText a ++ "\n"))

end EnvRequest

def EnvRequest.environment (r : EnvRequest) (env : List (String × String)) : List (String × String) :=
  let kept := if r.clear then [] else env.filter fun (n, _) => !r.unset.contains n
  r.assigns.foldl (fun env (n, v) => env.filter (·.1 != n) ++ [(n, v)]) kept

def environmentText (nul : Bool) (env : List (String × String)) : String :=
  String.join (env.map fun (n, v) => n ++ "=" ++ v ++ (if nul then "\x00" else "\n"))

/-- What `printenv` writes and its status: every variable without operands, else
each operand's value that is set. -/
def printenvText (env : List (String × String)) (args : List String) : String × Nat :=
  let (nul, names) := match args with
    | "-0" :: rest => (true, rest)
    | "--null" :: rest => (true, rest)
    | _ => (false, args)
  let names := match names with
    | "--" :: rest => rest
    | _ => names
  let ending := if nul then "\x00" else "\n"
  if names.isEmpty then (environmentText nul env, 0)
  else
    let found := names.filterMap fun n => if n.contains '=' then none else (env.find? (·.1 == n)).map (·.2)
    (String.join (found.map (· ++ ending)), if found.length == names.length then 0 else 1)

/-- Whether an interval of `sleep` is one: a number at the front, not negative
and not a not-a-number, then at most one character, a unit. -/
def sleepInterval (arg : String) : Bool :=
  match ExtendedValue.read arg.toList with
  | none => false
  | some v =>
    let nonNegative := match v.value with
      | .finite x => !x.neg || x.isZero
      | .infinite neg => !neg
      | .notANumber _ _ => false
    nonNegative && match v.rest with
      | [] => true
      | [u] => "smhd".toList.contains u
      | _ => false

def sleepProblem (args : List String) : Option String :=
  let args := match args with
    | "--" :: rest => rest
    | _ => args
  match args.find? fun a => a.startsWith "-" && a.length > 1 && !a.startsWith "--" with
  | some a => some ("sleep: invalid option -- '" ++ String.singleton ((a.toList.drop 1).headD '-') ++ "'\n" ++
      tryHelp "sleep")
  | none =>
    if args.isEmpty then some (missingOperand "sleep")
    else
      let bad := args.filter fun a => !sleepInterval a
      if bad.isEmpty then none
      else some (String.join (bad.map fun a => "sleep: invalid time interval " ++ quoteText a ++ "\n") ++
        tryHelp "sleep")

end Shell
end JuryCaptions
