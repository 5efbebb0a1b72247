import JuryCaptions.Shell.Utility
/-!
The reading half of `xargs`: the input is cut at blanks and newlines; quotes
keep blanks, a backslash the next character, and a quote left open is an error.
-/

namespace JuryCaptions
namespace Shell

inductive ScanMode where
  /-- Skipping blanks and newlines before an argument. -/
  | space
  /-- Inside an argument. -/
  | word
  /-- Inside quotes opened by the character. -/
  | quoted (q : Char)
  /-- After a backslash. -/
  | escaped
  deriving BEq

/-- What the scanner has read: the lines finished, the arguments of the line
being read, and the argument being read, each list last item first. -/
structure ScanState where
  lines : List (List String) := []
  line : List String := []
  buf : List Char := []
  mode : ScanMode := .space

namespace ScanState

def push (s : ScanState) : ScanState :=
  { s with line := String.ofList s.buf.reverse :: s.line, buf := [] }

def close (s : ScanState) : ScanState :=
  { s with lines := s.line.reverse :: s.lines, line := [] }

def finished (s : ScanState) : List (List String) :=
  (if s.line.isEmpty then s.lines else s.line.reverse :: s.lines).reverse

end ScanState

def isScanSpace (c : Char) : Bool :=
  c == ' ' || c == '\t' || c == '\n' || c == '\x0b' || c == '\x0c' || c == '\r'

/-- Why input could not be cut into arguments: the message, and the lines read
before the fault, which still run. -/
structure ScanFault where
  message : String
  before : List (List String)

def unmatchedQuote (q : Char) : String :=
  "unmatched " ++ (if q == '"' then "double" else "single") ++
    " quote; by default quotes are special to xargs unless you use the -0 option"

def scanArguments (wholeLines : Bool) : List Char → ScanState → Except ScanFault (List (List String))
  | [], s =>
    if s.buf.isEmpty then .ok s.finished
    else match s.mode with
      | .quoted q => .error ⟨unmatchedQuote q, s.finished⟩
      | _ => .ok s.push.close.finished
  | c :: rest, s =>
    match s.mode with
    | .space =>
      if isScanSpace c then scanArguments wholeLines rest s
      else scanWord wholeLines c rest { s with mode := .word }
    | .word => scanWord wholeLines c rest s
    | .quoted q =>
      if c == '\n' then .error ⟨unmatchedQuote q, s.finished⟩
      else if c == q then scanArguments wholeLines rest { s with mode := .word }
      else scanArguments wholeLines rest { s with buf := c :: s.buf }
    | .escaped => scanArguments wholeLines rest { s with buf := c :: s.buf, mode := .word }
where
  /-- Reads a character inside an argument. -/
  scanWord (wholeLines : Bool) (c : Char) (rest : List Char) (s : ScanState) :
      Except ScanFault (List (List String)) :=
    if c == '\n' then
      if s.buf.isEmpty then scanArguments wholeLines rest { s with mode := .space }
      else scanArguments wholeLines rest { s.push.close with mode := .space }
    else if !wholeLines && (c == ' ' || c == '\t') then scanArguments wholeLines rest { s.push with mode := .space }
    else if c == '\\' then scanArguments wholeLines rest { s with mode := .escaped }
    else if c == '\'' || c == '"' then scanArguments wholeLines rest { s with mode := .quoted c }
    else scanArguments wholeLines rest { s with buf := c :: s.buf }

def delimitedArguments (delim : Char) (text : String) : List (List String) :=
  let parts := text.splitOn (String.singleton delim)
  let parts := if parts.getLast? == some "" then parts.dropLast else parts
  parts.map ([·])

/-- How `xargs` reads its options, up to the command; `-i`, `-l` and `-e` are
older spellings of `-I {}`, `-L 1` and `-E`, values attached. -/
def xargsSyntax : OptionSyntax :=
  { flags := ['0', 'r', 't', 'x', 'p', 'o'], valued := ['d', 'n', 'L', 'I', 'E', 'P', 's', 'a'],
    attached := ['i', 'l', 'e'],
    long := [("null", '0'), ("no-run-if-empty", 'r'), ("verbose", 't'), ("exit", 'x'), ("interactive", 'p'),
             ("open-tty", 'o'), ("delimiter", 'd'), ("max-args", 'n'), ("max-lines", 'L'), ("replace", 'i'),
             ("eof", 'e'), ("max-procs", 'P'), ("max-chars", 's'), ("arg-file", 'a')],
    inOrder := true }

inductive BatchRule where
  | all
  | args (n : Nat)
  | lines (n : Nat)
  | replace (marker : String)

def lineRoom (words : List String) : Nat := words.foldl (fun n w => n + w.length + 1) 0

/-- Fills batches from units of arguments: a batch takes units while within
`room` with the command, up to `count` of them. -/
def fillBatches (room count : Nat) (command : List String) (units : List (List String)) :
    Except String (List (List String)) :=
  let base := lineRoom command
  let step (acc : Except String (List (List String) × List String × Nat × Nat)) (unit : List String) :
      Except String (List (List String) × List String × Nat × Nat) :=
    match acc with
    | .error e => .error e
    | .ok (done, cur, used, taken) =>
      let need := lineRoom unit
      if base + need > room then .error "argument line too long"
      else if taken > 0 && (base + used + need > room || taken ≥ count) then .ok (done ++ [cur], unit, need, 1)
      else .ok (done, cur ++ unit, used + need, taken + 1)
  match units.foldl step (.ok ([], [], 0, 0)) with
  | .error e => .error e
  | .ok (done, cur, _, taken) => .ok (if taken > 0 then done ++ [cur] else done)

def BatchRule.commands (rule : BatchRule) (room : Nat) (command : List String) (lines : List (List String))
    (always : Bool) : Except String (List (List String)) :=
  let items := lines.flatten
  match rule with
  | .replace marker =>
    .ok (lines.map fun l =>
      let item := " ".intercalate l
      command.map fun a => item.intercalate (a.splitOn marker))
  | _ =>
    if items.isEmpty then .ok (if always then [command] else [])
    else
      let batches := match rule with
        | .args n => fillBatches room n command (items.map ([·]))
        | .lines n => fillBatches room n command (lines.filter (!·.isEmpty))
        | _ => fillBatches room items.length command (items.map ([·]))
      batches.map fun bs => bs.map (command ++ ·)

/-- Whether the last command line waits for more arguments: only a batch its
count did not fill runs after the input ends. -/
def BatchRule.lastWaits (rule : BatchRule) (lines : List (List String)) : Bool :=
  match rule with
  | .replace _ => false
  | .args n => lines.flatten.length % n != 0
  | .lines n => (lines.filter (!·.isEmpty)).length % n != 0
  | .all => true

/-- The arguments of `xargs` read: the command lines to run, whether each is shown
first. -/
structure XargsPlan where
  commands : List (List String)
  verbose : Bool
  warnings : List String := []
  fault : Option String := none
  faultAt : Nat := 0
  /-- Whether a command run so far failed. -/
  anyFailed : Bool := false

def delimiterDigit (base : Nat) (c : Char) : Option Nat :=
  let v := if c.isDigit then some (c.toNat - 48)
    else if 'a' ≤ c.toLower && c.toLower ≤ 'f' then some (c.toLower.toNat - 87) else none
  v.filter (· < base)

def inputDelimiter (d : String) : Except String Char :=
  match d.toList with
  | [c] => .ok c
  | '\\' :: e :: rest =>
    match e with
    | 'a' => .ok '\x07'
    | 'b' => .ok '\x08'
    | 'f' => .ok '\x0c'
    | 'n' => .ok '\n'
    | 'r' => .ok '\r'
    | 't' => .ok '\t'
    | 'v' => .ok '\x0b'
    | '\\' => .ok '\\'
    | _ =>
      let (base, ds) := if e == 'x' then (16, rest) else (8, e :: rest)
      if e != 'x' && !e.isDigit then .error ("Invalid escape sequence " ++ d ++ " in input delimiter specification.")
      else
        let digits := ds.takeWhile fun c => (delimiterDigit base c).isSome
        let v := digits.foldl (fun n c => base * n + (delimiterDigit base c).getD 0) 0
        if v > 255 then
          .error ("Invalid escape sequence " ++ d ++ " in input delimiter specification; character values must not exceed " ++
            (if base == 16 then "ff" else "377") ++ ".")
        else if digits.length < ds.length then
          .error ("Invalid escape sequence " ++ d ++ " in input delimiter specification; trailing characters " ++
            String.ofList (ds.drop digits.length) ++ " not recognised.")
        else .ok (Char.ofNat v)
  | _ =>
    .error ("Invalid input delimiter specification " ++ d ++
      ": the delimiter must be either a single character or an escape sequence starting with \\.")

def defaultRoom : Nat := 131072

def XargsPlan.ofOptions (o : ReadOptions) (input : String) : Except String XargsPlan := do
  let bounded (c : Char) (least : Int) (v : String) : Except String Nat :=
    let body := v.toList.dropWhile (fun ch => ch == ' ' || ch == '\t' || ch == '\n')
    let (negative, digits) := match body with
      | '-' :: ds => (true, ds)
      | '+' :: ds => (false, ds)
      | ds => (false, ds)
    let option := "-" ++ String.singleton c ++ " option"
    if digits.isEmpty || !digits.all Char.isDigit then
      .error ("invalid number \"" ++ v ++ "\" for " ++ option ++ "\n" ++ (tryHelp "xargs").dropEnd 1)
    else
      let n : Int := (if negative then -1 else 1) * (digits.foldl (fun n d => 10 * n + (d.toNat - 48)) 0 : Nat)
      if n < least then
        .error ("value " ++ v ++ " for " ++ option ++ " should be >= " ++ toString least ++ "\n" ++
          (tryHelp "xargs").dropEnd 1)
      else .ok n.toNat
  let count (c : Char) (v : String) : Except String Nat :=
    if c == 's' then
      match v.toNat? with
      | some n => if n == 0 then .error "value 0 for -s option should be >= 1" else .ok n
      | none => bounded c 1 v
    else bounded c 1 v
  let warn (option offending : String) : String :=
    "warning: options " ++ offending ++ " and " ++ option ++ " are mutually exclusive, ignoring previous " ++
      offending ++ " value"
  let (rule, warnings) ← o.given.foldlM (fun ((rule : BatchRule), (ws : List String)) (c, v) =>
    let replaced (marker : String) : Except String (BatchRule × List String) :=
      .ok (.replace marker, ws ++ match rule with
        | .args _ => [warn "--replace/-I/-i" "--max-args"]
        | .lines _ => [warn "--replace/-I/-i" "--max-lines"]
        | _ => [])
    let byLines (n : Nat) : BatchRule × List String :=
      (.lines n, ws ++ match rule with
        | .args _ => [warn "--max-lines" "--max-args"]
        | .replace _ => [warn "--max-lines" "--replace/-I/-i"]
        | _ => [])
    match c with
    | 'n' => (count 'n' v).map fun n => (.args n, ws ++ match rule with
        | .lines _ => [warn "--max-args/-n" "--max-lines"]
        | .replace _ => [warn "--max-args/-n" "--replace/-I/-i"]
        | _ => [])
    | 'L' => (count 'L' v).map byLines
    | 'l' => if v.isEmpty then .ok (byLines 1) else (count 'l' v).map byLines
    | 'I' => replaced v
    | 'i' => replaced (if v.isEmpty then "\x7b\x7d" else v)
    | _ => .ok (rule, ws)) (BatchRule.all, ([] : List String))
  let _ ← o.given.foldlM (fun _ (c, v) => if c == 'P' then (bounded 'P' 0 v).map fun _ => () else .ok ()) ()
  let room ← match o.last? 's' with
    | some v => count 's' v
    | none => .ok defaultRoom
  let delim : Option Char ←
    if o.has '0' then .ok (some (Char.ofNat 0))
    else match o.last? 'd' with
      | some d => (inputDelimiter d).map some
      | none => .ok none
  let wholeLines := match rule with
    | .replace _ => true
    | _ => false
  let (lines, fault) := match delim with
    | some d => (delimitedArguments d input, none)
    | none => match scanArguments wholeLines input.toList {} with
      | .ok ls => (ls, none)
      | .error f => (f.before, some f.message)
  let mark := ((o.given.filter fun (c, _) => c == 'E' || c == 'e').getLast?).map (·.2)
  let lines := match mark with
    | some mark =>
      if mark.isEmpty then lines
      else
        let before := lines.flatten.takeWhile (· != mark)
        if before.length == lines.flatten.length then lines
        else
          (lines.foldl (fun (acc : List (List String) × Nat) l =>
            let kept := l.take (before.length - acc.2)
            (if kept.isEmpty then acc.1 else acc.1 ++ [kept], acc.2 + kept.length)) ([], 0)).1
    | none => lines
  let command := o.operandsOr "echo"
  let always := !o.has 'r' && fault.isNone
  let commands ← rule.commands room command lines always
  let faultAt := if rule.lastWaits lines then commands.length - 1 else commands.length
  return { commands, verbose := o.has 't' || o.has 'p', warnings, fault, faultAt }

end Shell
end JuryCaptions
