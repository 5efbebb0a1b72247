import JuryCaptions.Shell.State
import JuryCaptions.Shell.Arith
import JuryCaptions.Shell.Condition
import JuryCaptions.Shell.Format
import JuryCaptions.Shell.Tools
import JuryCaptions.Shell.Glob
import JuryCaptions.Shell.Utility.Env
import JuryCaptions.Shell.Utility.Test
/-!
Running shell scripts and the programs they start over a file tree in memory.
A simple command has its words expanded and split, then its redirections and
its assignments expanded.
-/

namespace JuryCaptions
namespace Shell

def regularBuiltins : List String :=
  ["echo", "printf", "true", "false", "test", "[", "cd", "pwd", "read", "wait", "kill", "local", "command",
   "type", "getopts", "alias", "unalias", "umask", "ulimit", "hash", "jobs"]

def sleepsAlone : Command → Bool
  | .simple [] (w :: args) [] _ => plainText? w == some "sleep" && !args.isEmpty && !args.all (plainText? · == some "0")
  | _ => false

def trimNewlines (s : String) : String :=
  String.ofList (s.toList.reverse.dropWhile (· == '\n')).reverse

def optionLetters : List (String × Option Char) :=
  [("errexit", some 'e'), ("noglob", some 'f'), ("ignoreeof", some 'I'), ("interactive", some 'i'),
   ("monitor", some 'm'), ("noexec", some 'n'), ("stdin", some 's'), ("xtrace", some 'x'),
   ("verbose", some 'v'), ("vi", some 'V'), ("emacs", some 'E'), ("noclobber", some 'C'),
   ("allexport", some 'a'), ("notify", some 'b'), ("nounset", some 'u'), ("privileged", some 'p'),
   ("nolog", none), ("debug", none)]

abbrev ReadLine := List (Char × Bool)

def readAssignments (ifs : List Char) : List String → ReadLine → List (String × String)
  | [], _ => []
  | [n], cs =>
    let isWhite (x : Char × Bool) : Bool := !x.2 && ifs.contains x.1 && Fields.isWhite x.1
    let isSep (x : Char × Bool) : Bool := !x.2 && ifs.contains x.1
    let cs := cs.dropWhile isWhite
    let cs := (cs.reverse.dropWhile isWhite).reverse
    let field := cs.takeWhile (!isSep ·)
    let oneSeparator : Bool := match (cs.drop field.length).dropWhile isWhite with
      | x :: more => isSep x && (more.dropWhile isWhite).isEmpty
      | [] => true
    [(n, String.ofList ((if oneSeparator then field else cs).map (·.1)))]
  | n :: ns, cs =>
    let isWhite (x : Char × Bool) : Bool := !x.2 && ifs.contains x.1 && Fields.isWhite x.1
    let isSep (x : Char × Bool) : Bool := !x.2 && ifs.contains x.1
    let cs := cs.dropWhile isWhite
    let field := cs.takeWhile (!isSep ·)
    let rest := (cs.drop field.length).dropWhile isWhite
    let rest := match rest with
      | x :: more => if isSep x then more.dropWhile isWhite else rest
      | [] => []
    (n, String.ofList (field.map (·.1))) :: readAssignments ifs ns rest

def readInputLine (raw : Bool) : List Char → ReadLine × Bool × List Char
  | [] => ([], false, [])
  | '\n' :: rest => ([], true, rest)
  | '\\' :: c :: rest =>
    if raw then
      let (line, ended, more) := readInputLine raw (c :: rest)
      (('\\', false) :: line, ended, more)
    else if c == '\n' then readInputLine raw rest
    else
      let (line, ended, more) := readInputLine raw rest
      ((c, true) :: line, ended, more)
  | c :: rest =>
    let (line, ended, more) := readInputLine raw rest
    ((c, false) :: line, ended, more)

/-- One step of `getopts`: the letter read (`?` unknown, `:` missing argument
when silent), its argument, the message for standard error, the new `OPTIND`
and offset, and whether the options are done. -/
def getoptsStep (optstring : String) (args : List String) (optind : Nat) (offset : Option Nat) :
    Char × Option String × Option String × Nat × Option Nat × Bool :=
  let silent := optstring.startsWith ":"
  let spec := optstring.toList
  let current : Option (List Char) :=
    match offset with
    | some off =>
      match args[optind - 2]? with
      | some a => if optind ≥ 2 && off < a.length then some (a.toList.drop off) else none
      | none => none
    | none => none
  let (letters, next, done) : List Char × Nat × Bool :=
    match current with
    | some cs => (cs, optind, false)
    | none =>
      match args[optind - 1]? with
      | some a =>
        if a == "--" then ([], optind + 1, true)
        else if a.startsWith "-" && a.length > 1 then (a.toList.drop 1, optind + 1, false)
        else ([], optind, true)
      | none => ([], optind, true)
  if done then ('?', none, none, next, none, true)
  else
    match letters with
    | [] => ('?', none, none, next, none, true)
    | c :: rest =>
      let word := args.getD (next - 2) ""
      let consumed := word.length - rest.length
      match spec.findIdx? (· == c) with
      | none =>
        if silent then ('?', some (String.singleton c), none, next, if rest.isEmpty then none else some consumed, false)
        else ('?', none, some ("Illegal option -" ++ String.singleton c), next,
          if rest.isEmpty then none else some consumed, false)
      | some i =>
        if c == ':' then ('?', none, some ("Illegal option -:"), next, none, false)
        else if spec[i + 1]? == some ':' then
          if !rest.isEmpty then (c, some (String.ofList rest), none, next, none, false)
          else
            match args[next - 1]? with
            | some a => (c, some a, none, next + 1, none, false)
            | none =>
              if silent then (':', some (String.singleton c), none, next, none, false)
              else ('?', none, some ("No arg for -" ++ String.singleton c ++ " option"), next, none, false)
        else (c, some "", none, next, if rest.isEmpty then none else some consumed, false)

namespace Proc

def lookup (p : Proc) (name : String) : Option String := p.params.lookup name

def fail (p : Proc) (msg : String) : Proc × Flow :=
  match p.killedBy with
  | some n => (p, .finish (.signal n))
  | none => ((p.complain msg).setStatus 2, .finish (.code 2))

def checkExit (tested : Bool) (p : Proc) : Proc × Flow :=
  if !tested && p.option 'e' && p.status != 0 then (p, .finish (.code p.status)) else (p, .next)

def paramSegs (p : Proc) (name : String) (quoted : Bool) : Except String (List Seg) :=
  let origin : Origin := if quoted then .quoted else .expanded
  let spread := ((p.params.positional.map fun s => [Seg.brk, Seg.text s origin]).flatten).drop 1
  match name with
  | "@" => .ok spread
  | "*" =>
    if quoted && !p.params.positional.isEmpty then
      let sep := match p.params.lookup "IFS" with
        | some v => (v.toList.head?.map String.singleton).getD ""
        | none => " "
      .ok [.text (sep.intercalate p.params.positional) .quoted]
    else .ok spread
  | _ =>
    match p.lookup name with
    | some v => .ok [.text v origin]
    | none => if p.option 'u' then .error (name ++ ": parameter not set") else .ok []

def assignAll (p : Proc) (values : List (String × String)) : Except String Proc :=
  values.foldlM (fun p (n, v) => p.setVar n v) p

def assignFor (p : Proc) (values : List (String × String)) : Except String (Proc × List (String × Option String)) :=
  values.foldlM (fun (p, saved) (n, v) => (p.setVar n v).map fun q => (q, saved ++ [(n, p.var? n)])) (p, [])

def putBack (p : Proc) (saved : List (String × Option String)) : Proc :=
  saved.reverse.foldl (fun p (n, v) => p.restoreVar n v) p

def listVars (p : Proc) (word : String) (names : List String) : String :=
  let sorted := names.eraseDups.mergeSort fun a b => decide (a ≤ b)
  String.join (sorted.map fun n => match p.var? n with
    | some v => word ++ n ++ "=" ++ shellQuote v ++ "\n"
    | none => word ++ n ++ "\n")

def report (p : Proc) (o : ToolOutcome) : Proc × Ending :=
  (o.writes.foldl (fun p (fd, text) => p.emit fd text) { p with files := o.files }, .code o.status)

def toolInput (p : Proc) : ToolInput × Proc :=
  let size := p.inputSize
  let (input, p) := p.readAll
  ({ name := p.params.arg0, files := p.files, cwd := p.cwd, input := input, inputSize := size, mask := p.mask }, p)

def noteSignal (p : Proc) (s : Nat) : Proc :=
  if s == 2 || s == 13 then p else p.emit 2 (signalDescription s ++ "\n")

def describe (p : Proc) (n : String) (brief : Bool) : Option String :=
  let say (short long : String) : Option String := some (if brief then short else n ++ long)
  if keywords.contains n then say n " is a shell keyword"
  else
    match p.aliases.find? (·.1 == n) with
    | some (_, v) => say ("alias " ++ n ++ "=" ++ shellQuote v) (" is an alias for " ++ v)
    | none =>
      if p.funcs.any (·.1 == n) then say n " is a shell function"
      else if specialBuiltins.contains n then say n " is a special shell builtin"
      else if regularBuiltins.contains n then say n " is a shell builtin"
      else (p.findProgram n).bind fun path => say path (" is " ++ path)

end Proc

def builtinOptions (allowed : List Char) : List String → Except (List Char × Char) (List Char × List String)
  | [] => .ok ([], [])
  | a :: rest =>
    if a == "--" then .ok ([], rest)
    else
      match a.toList with
      | '-' :: c :: cs =>
        let letters := c :: cs
        match letters.find? (!allowed.contains ·) with
        | some bad => .error (letters.takeWhile (allowed.contains ·), bad)
        | none =>
          match builtinOptions allowed rest with
          | .ok (given, more) => .ok (letters ++ given, more)
          | .error (given, bad) => .error (letters ++ given, bad)
      | _ => .ok ([], a :: rest)

def octalText (width n : Nat) : String :=
  let ds := Nat.toDigits 8 n
  String.ofList (List.replicate (width - ds.length) '0' ++ ds)

def symbolicMask (mask : Nat) : String :=
  let part (who : String) (shift : Nat) : String :=
    let bits := (511 - mask % 512) / Nat.pow 2 shift % 8
    who ++ "=" ++ (if bits / 4 % 2 == 1 then "r" else "") ++ (if bits / 2 % 2 == 1 then "w" else "") ++
      (if bits % 2 == 1 then "x" else "")
  part "u" 6 ++ "," ++ part "g" 3 ++ "," ++ part "o" 0

def readMask (mask : Nat) (text : String) : Except String Nat :=
  if text.toList.head?.any Char.isDigit then
    if text.all fun c => '0' ≤ c && c ≤ '7' then .ok (text.toList.foldl (fun n d => 8 * n + (d.toNat - '0'.toNat)) 0 % 512)
    else .error ("Illegal number: " ++ text)
  else
    let clause (allowed : Nat) (c : String) : Except String Nat :=
      let who := c.toList.takeWhile ("ugoa".toList.contains ·)
      let rest := c.toList.drop who.length
      let whoBits := if who.isEmpty || who.contains 'a' then 511 else
        (if who.contains 'u' then 448 else 0) + (if who.contains 'g' then 56 else 0) + (if who.contains 'o' then 7 else 0)
      match rest with
      | op :: perms =>
        if !("+-=".toList.contains op) || !(perms.all ("rwx".toList.contains ·)) then .error ("Illegal mode: " ++ text)
        else
          let one := (if perms.contains 'r' then 4 else 0) + (if perms.contains 'w' then 2 else 0) +
            (if perms.contains 'x' then 1 else 0)
          let bits := whoBits &&& (one * 73)
          .ok (if op == '+' then allowed ||| bits else if op == '-' then allowed &&& (511 - bits)
            else (allowed &&& (511 - whoBits)) ||| bits)
      | [] => .error ("Illegal mode: " ++ text)
    ((text.splitOn ",").foldlM clause (511 - mask % 512)).map (511 - ·)

def shellOptions (flags valued : List Char) : Nat → List String → Except String (List (Char × String) × List String)
  | 0, args => .ok ([], args)
  | _ + 1, [] => .ok ([], [])
  | f + 1, a :: rest =>
    if a == "--" then .ok ([], rest)
    else
      match a.toList with
      | '-' :: c :: cs =>
        match letters (c :: cs) rest with
        | .ok (given, more) => (shellOptions flags valued f more).map fun (later, ops) => (given ++ later, ops)
        | .error e => .error e
      | _ => .ok ([], a :: rest)
where
  /-- The options of one word, and the words after it that are left. -/
  letters : List Char → List String → Except String (List (Char × String) × List String)
    | [], rest => .ok ([], rest)
    | c :: more, rest =>
      if flags.contains c then (letters more rest).map fun (given, left) => ((c, "") :: given, left)
      else if valued.contains c then
        if !more.isEmpty then .ok ([(c, String.ofList more)], rest)
        else
          match rest with
          | v :: left => .ok ([(c, v)], left)
          | [] => .error ("No arg for -" ++ String.singleton c ++ " option")
      else .error ("Illegal option -" ++ String.singleton c)

def commandTarget : List String → Option (List String)
  | [] => none
  | a :: rest =>
    if a == "--" then (if rest.isEmpty then none else some rest)
    else
      match a.toList with
      | '-' :: c :: cs => if (c :: cs).all (· == 'p') then commandTarget rest else none
      | _ => some (a :: rest)

/-- The slot of an alias's name in the table that aliases are listed from:
sixteen times its first byte and the sum of its bytes, modulo 39. -/
def aliasSlot (n : String) : Nat :=
  let bytes := n.toUTF8.toList.map (·.toNat)
  ((16 * bytes.headD 0 + bytes.foldl (· + ·) 0) % 4294967296) % 39

def listAliases (aliases : List (String × String)) : String :=
  String.join ((List.range 39).flatMap fun i =>
    (aliases.filter fun a => aliasSlot a.1 == i).map fun (n, v) => n ++ "=" ++ shellQuote v ++ "\n")

def setAlias (aliases : List (String × String)) (n v : String) : List (String × String) :=
  if aliases.any (·.1 == n) then aliases.map fun a => if a.1 == n then (n, v) else a
  else aliases ++ [(n, v)]

/-- What `xargs` is to run, read from its options and its input, with the
shell after the input is read; or the message for a bad option or file. -/
def xargsStart (p : Proc) (args : List String) : Except String (XargsPlan × Proc) :=
  match xargsSyntax.read args with
  | .error e => .error (e.message "xargs")
  | .ok o =>
    let source : Except String (String × Proc) := match o.last? 'a' with
      | some file => match p.files.read (p.resolve file) with
        | .ok text => .ok (text, p)
        | .error e => .error ("xargs: Cannot open input file " ++ shownName file ++ ": " ++
            (if e == "is a directory" then "Is a directory" else "No such file or directory") ++ "\n")
      | none => .ok p.readAll
    match source with
    | .error e => .error e
    | .ok (input, p) =>
      match XargsPlan.ofOptions o input with
      | .error e => .error ("xargs: " ++ e ++ "\n")
      | .ok plan => .ok (plan, p)

mutual

def expandWord : Nat → Proc → Word → Proc × Except String (List Seg)
  | 0, p, _ => (p, .error "expansion too deep")
  | f + 1, p, w =>
    if p.params.positional.isEmpty && w.contains (.param "@" true) &&
        w.all (fun part => part == .param "@" true || part == .text "" true) then (p, .ok [])
    else expandParts f p w []

def expandParts : Nat → Proc → List WordPart → List Seg → Proc × Except String (List Seg)
  | 0, p, _, _ => (p, .error "expansion too deep")
  | _ + 1, p, [], acc => (p, .ok acc)
  | f + 1, p, part :: rest, acc =>
    match expandPart f p part with
    | (p, .ok segs) => expandParts f p rest (acc ++ segs)
    | (p, .error e) => (p, .error e)

def expandPart : Nat → Proc → WordPart → Proc × Except String (List Seg)
  | 0, p, _ => (p, .error "expansion too deep")
  | f + 1, p, part =>
    let origin (q : Bool) : Origin := if q then .quoted else .expanded
    match part with
    | .text s q => (p, .ok [.text s (if q then .quoted else .literal)])
    | .param name q => (p, p.paramSegs name q)
    | .length name q =>
      match p.lookup name with
      | some v => (p, .ok [.text (toString v.length) (origin q)])
      | none =>
        if p.option 'u' then (p, .error (name ++ ": parameter not set")) else (p, .ok [.text "0" (origin q)])
    | .paramOp name op word q => expandOp f p name op word q
    | .badSubstitution => (p, .error "Bad substitution")
    | .command script q =>
      let (p, out) := substitute f p script
      (p, .ok [.text out (origin q)])
    | .arith expr q =>
      match expandInner f p expr .quotedInner with
      | (p, .error e) => (p, .error e)
      | (p, .ok segs) =>
        match evalArith p.lookup (textOf segs) with
        | .error (.message e) => (p, .error e)
        | .error .trap => ({ p with killedBy := some 8 }, .error "")
        | .ok (v, assigned) =>
          match assigned.reverse.foldlM (fun p (n, x) => p.setVar n (toString x)) p with
          | .ok p => (p, .ok [.text (toString v) (origin q)])
          | .error e => (p, .error e)

def expandInner : Nat → Proc → String → Mode → Proc × Except String (List Seg)
  | 0, p, _, _ => (p, .error "expansion too deep")
  | f + 1, p, text, mode =>
    match wordOf mode text with
    | .error e => (p, .error e)
    | .ok w => expandWord f p w

def expandOp : Nat → Proc → String → String → String → Bool → Proc × Except String (List Seg)
  | 0, p, _, _, _, _ => (p, .error "expansion too deep")
  | f + 1, p, name, op, word, q =>
    let origin : Origin := if q then .quoted else .expanded
    let value := p.lookup name
    let colon := op.startsWith ":"
    let base := if colon then (op.drop 1).toString else op
    let missing := match value with
      | none => true
      | some v => colon && v.isEmpty
    let mode := if q then Mode.quotedInner else .inner
    match base with
    | "-" => if missing then expandInner f p word mode else (p, p.paramSegs name q)
    | "+" => if missing then (p, .ok []) else expandInner f p word mode
    | "=" =>
      if missing then
        match expandInner f p word mode with
        | (p, .error e) => (p, .error e)
        | (p, .ok segs) =>
          let t := textOf segs
          if !isName name then (p, .error (name ++ ": bad variable name"))
          else match p.setVar name t with
            | .ok p => (p, .ok [.text t origin])
            | .error e => (p, .error e)
      else (p, p.paramSegs name q)
    | "?" =>
      if missing then
        if word.isEmpty then
          (p, .error (name ++ ": " ++ if colon then "parameter not set or null" else "parameter not set"))
        else match expandInner f p word mode with
          | (p, .error e) => (p, .error e)
          | (p, .ok segs) => (p, .error (name ++ ": " ++ textOf segs))
      else (p, p.paramSegs name q)
    | _ =>
      if value.isNone && p.option 'u' then (p, .error (name ++ ": parameter not set"))
      else
        match expandInner f p word .inner with
        | (p, .error e) => (p, .error e)
        | (p, .ok segs) =>
          let v := value.getD ""
          let pattern := patternOf segs
          let longest := base.length == 2
          let r := if base.startsWith "#" then trimPrefix pattern longest v else trimSuffix pattern longest v
          (p, .ok [.text r origin])

def substitute : Nat → Proc → String → Proc × String
  | 0, p, _ => (p, "")
  | f + 1, p, script =>
    let inner := { p with captured := "", fds := p.fds.point 1 .capture, traps := [] }
    let (q, flow) := runText f false inner script
    let (q, ending) := finishShell f q flow
    ({ p.rejoin q with captured := p.captured, substStatus := some ending.status, signalled := [] },
      trimNewlines (String.ofList (q.captured.toList.filter (· != '\x00'))))

def expandFields : Nat → Proc → List Word → Proc × Except String (List String)
  | 0, p, _ => (p, .error "expansion too deep")
  | _ + 1, p, [] => (p, .ok [])
  | f + 1, p, w :: ws =>
    match expandWord f p w with
    | (p, .error e) => (p, .error e)
    | (p, .ok segs) =>
      let fields := (patternFieldsOf p.params.ifs segs).flatMap fun field =>
        let plain := String.ofList (field.map (·.1))
        if p.option 'f' || !hasGlobChar field then [plain]
        else
          match globPaths p.files p.cwd field with
          | [] => [plain]
          | paths => paths
      match expandFields f p ws with
      | (p, .ok rest) => (p, .ok (fields ++ rest))
      | (p, .error e) => (p, .error e)

def expandText : Nat → Proc → Word → Proc × Except String String
  | 0, p, _ => (p, .error "expansion too deep")
  | f + 1, p, w =>
    match expandWord f p w with
    | (p, .ok segs) => (p, .ok (textOf segs))
    | (p, .error e) => (p, .error e)

def expandRedirects : Nat → Proc → List Redirect → Proc × Except String (List (Nat × RedirectKind × String))
  | 0, p, _ => (p, .error "expansion too deep")
  | _ + 1, p, [] => (p, .ok [])
  | f + 1, p, r :: rs =>
    match expandText f p r.target with
    | (p, .error e) => (p, .error e)
    | (p, .ok t) =>
      match expandRedirects f p rs with
      | (p, .ok more) => (p, .ok ((r.fd, r.kind, t) :: more))
      | (p, .error e) => (p, .error e)

def expandAssigns : Nat → Proc → List (String × Word) → Proc × Except String (List (String × String))
  | 0, p, _ => (p, .error "expansion too deep")
  | _ + 1, p, [] => (p, .ok [])
  | f + 1, p, (n, w) :: rest =>
    match expandText f p w with
    | (p, .error e) => (p, .error e)
    | (p, .ok v) =>
      match expandAssigns f p rest with
      | (p, .ok more) => (p, .ok ((n, v) :: more))
      | (p, .error e) => (p, .error e)

def matchAny : Nat → Proc → String → List Word → Proc × Except String Bool
  | 0, p, _, _ => (p, .error "expansion too deep")
  | _ + 1, p, _, [] => (p, .ok false)
  | f + 1, p, s, w :: ws =>
    match expandWord f p w with
    | (p, .error e) => (p, .error e)
    | (p, .ok segs) => if globMatch (patternOf segs) s then (p, .ok true) else matchAny f p s ws

def runCommand : Nat → Bool → Proc → Command → Proc × Flow
  | 0, _, p, _ => (p, .finish (.signal 9))
  | f + 1, tested, p, c =>
    match c with
    | .simple assigns words rs line => runSimple f tested p assigns words rs line
    | .seq cs => runSeq f tested p cs
    | .andThen a b =>
      match runCommand f true p a with
      | (p, .next) => if p.status == 0 then runCommand f tested p b else (p, .next)
      | r => r
    | .orElse a b =>
      match runCommand f true p a with
      | (p, .next) => if p.status != 0 then runCommand f tested p b else (p, .next)
      | r => r
    | .pipe cs negate =>
      match runPipe f (tested || negate) p cs with
      | (q, .next) =>
        let q := { q with fds := p.fds }
        if negate then (q.setStatus (if q.status == 0 then 1 else 0), .next) else q.checkExit tested
      | (q, flow) => ({ q with fds := p.fds }, flow)
    | .group body rs => withRedirects f tested p rs body
    | .subshell body rs =>
      if rs.isEmpty then
        match subshell f tested { p with signalled := [] } body with
        | (q, .stopped) => (q, .finish .stopped)
        | (q, e) => (q.setStatus e.status).checkExit tested
      else withRedirects f tested p rs (.subshell body [])
    | .ifThen cond thenPart elsePart rs =>
      if rs.isEmpty then
        match runCommand f true p cond with
        | (p, .next) =>
          if p.status == 0 then runCommand f tested p thenPart
          else match elsePart with
            | some e => runCommand f tested p e
            | none => (p.setStatus 0, .next)
        | r => r
      else withRedirects f tested p rs (.ifThen cond thenPart elsePart [])
    | .loop cond body untilLoop rs =>
      if rs.isEmpty then
        let (q, flow) := runLoop f tested { p with loops := p.loops + 1 } cond body untilLoop 0
        ({ q with loops := p.loops }, flow)
      else withRedirects f tested p rs (.loop cond body untilLoop [])
    | .forEach name items body rs =>
      if rs.isEmpty then
        let (p, values) := match items with
          | some ws => expandFields f p ws
          | none => (p, .ok p.params.positional)
        match values with
        | .error e => p.fail e
        | .ok vs =>
          let (q, flow) := runFor f tested ({ p with loops := p.loops + 1 }.setStatus 0) name vs body
          ({ q with loops := p.loops }, flow)
      else withRedirects f tested p rs (.forEach name items body [])
    | .caseOf subject arms rs =>
      if rs.isEmpty then
        match expandText f p subject with
        | (p, .error e) => p.fail e
        | (p, .ok s) => runCase f tested p s arms
      else withRedirects f tested p rs (.caseOf subject arms [])
    | .function name body =>
      ({ p with funcs := p.funcs.filter (fun (d : String × Command) => d.1 != name) ++ [(name, body)] }.setStatus 0, .next)
    | .background body =>
      let pid := p.nextPid
      let inner := { p with nextPid := pid + 1 }.openStream ""
      match subshell f false inner body with
      | (q, .stopped) => ({ p.rejoin q with fds := p.fds }, .finish .stopped)
      | (q, e) =>
        let q := { p.rejoin q with jobs := (pid, e.status) :: p.jobs,
                                    sleepers := if sleepsAlone body then pid :: p.sleepers else p.sleepers,
                                    signalled := match e with
                                      | .signal s => (pid, s) :: p.signalled
                                      | _ => p.signalled }
        ({ q with params := { q.params with lastBackground := some pid } }.setStatus 0, .next)

def withRedirects : Nat → Bool → Proc → List Redirect → Command → Proc × Flow
  | 0, _, p, _, _ => (p, .finish (.signal 9))
  | f + 1, tested, p, rs, c =>
    match expandRedirects f p rs with
    | (p, .error e) => p.fail e
    | (p, .ok targets) =>
      match p.redirectAll targets with
      | .error e => ((p.complain e).setStatus 2).checkExit tested
      | .ok q =>
        let (q, flow) := runCommand f tested q c
        ({ q with fds := p.fds }, flow)

def subshell : Nat → Bool → Proc → Command → Proc × Ending
  | 0, _, p, _ => (p, .signal 9)
  | f + 1, tested, p, c =>
    let (q, flow) := runCommand f tested { p with traps := [] } c
    let (q, ending) := finishShell f q flow
    (p.rejoin q, ending)

def finishShell : Nat → Proc → Flow → Proc × Ending
  | 0, p, _ => (p, .signal 9)
  | f + 1, p, flow =>
    match flow with
    | .finish (.signal n) => (p, .signal n)
    | .finish .stopped => (p, .stopped)
    | _ =>
      let status := match flow with
        | .finish (.code n) => n
        | _ => p.status
      match p.traps.find? (·.1 == 0) with
      | none => (p, .code status)
      | some (_, action) =>
        let q := { p with traps := p.traps.filter (·.1 != 0), exiting := some status }.setStatus status
        match runText f false q action with
        | (q, .finish e) => (q, e)
        | (q, _) => (q, .code status)

def runText : Nat → Bool → Proc → String → Proc × Flow
  | 0, _, p, _ => (p, .finish (.signal 9))
  | f + 1, tested, p, text =>
    let lexed := lex text
    runLines f tested p lexed (lexed.tokens.map (·.1))

/-- Runs the lines of a script from its tokens one after the other, each read with the
aliases defined when it starts, up to a syntax error. -/
def runLines : Nat → Bool → Proc → Lexed → List Token → Proc × Flow
  | 0, _, p, _, _ => (p, .finish (.signal 9))
  | f + 1, tested, p, lexed, ts =>
    match nextLine lexed p.aliases ts with
    | .finished none => (p, .next)
    | .finished (some (line, msg)) => { p with line := line }.fail msg
    | .line c rest =>
      if p.option 'n' then runLines f tested p lexed rest else
      match runCommand f tested p c with
      | (p, .next) => runLines f tested p lexed rest
      | r => r

def runSeq : Nat → Bool → Proc → List Command → Proc × Flow
  | 0, _, p, _ => (p, .finish (.signal 9))
  | _ + 1, _, p, [] => (p, .next)
  | f + 1, tested, p, c :: cs =>
    match runCommand f tested p c with
    | (p, .next) => runSeq f tested p cs
    | r => r

def runPipe : Nat → Bool → Proc → List Command → Proc × Flow
  | 0, _, p, _ => (p, .finish (.signal 9))
  | _ + 1, _, p, [] => (p, .next)
  | f + 1, tested, p, [c] =>
    match subshell f tested p c with
    | (q, .stopped) => (q, .finish .stopped)
    | (q, e) => (q.setStatus e.status, .next)
  | f + 1, tested, p, c :: cs =>
    let inner := { p with captured := "", fds := p.fds.point 1 .capture }
    match subshell f tested inner c with
    | (q, .stopped) => ({ q with captured := p.captured, fds := p.fds }, .finish .stopped)
    | (q, _) =>
      let piped := q.captured
      runPipe f tested ({ q with captured := p.captured, fds := p.fds }.openStream piped) cs

def runLoop : Nat → Bool → Proc → Command → Command → Bool → Nat → Proc × Flow
  | 0, _, p, _, _, _, _ => (p, .finish (.signal 9))
  | f + 1, tested, p, cond, body, untilLoop, last =>
    match runCommand f true p cond with
    | (p, .next) =>
      if (p.status == 0) != untilLoop then
        match runCommand f tested p body with
        | (p, .next) => runLoop f tested p cond body untilLoop p.status
        | (p, .broke n) => if n ≤ 1 then (p, .next) else (p, .broke (n - 1))
        | (p, .continued n) =>
          if n ≤ 1 then runLoop f tested p cond body untilLoop p.status else (p, .continued (n - 1))
        | r => r
      else (p.setStatus last, .next)
    | (p, .broke n) => if n ≤ 1 then (p, .next) else (p, .broke (n - 1))
    | (p, .continued n) =>
      if n ≤ 1 then runLoop f tested p cond body untilLoop last else (p, .continued (n - 1))
    | r => r

def runFor : Nat → Bool → Proc → String → List String → Command → Proc × Flow
  | 0, _, p, _, _, _ => (p, .finish (.signal 9))
  | _ + 1, _, p, _, [], _ => (p, .next)
  | f + 1, tested, p, name, v :: vs, body =>
    match p.setVar name v with
    | .error e => p.fail e
    | .ok p =>
      match runCommand f tested p body with
      | (p, .next) => runFor f tested p name vs body
      | (p, .broke n) => if n ≤ 1 then (p, .next) else (p, .broke (n - 1))
      | (p, .continued n) => if n ≤ 1 then runFor f tested p name vs body else (p, .continued (n - 1))
      | r => r

def runCase : Nat → Bool → Proc → String → List (List Word × Command) → Proc × Flow
  | 0, _, p, _, _ => (p, .finish (.signal 9))
  | _ + 1, _, p, _, [] => (p.setStatus 0, .next)
  | f + 1, tested, p, s, (pats, body) :: arms =>
    match matchAny f p s pats with
    | (p, .error e) => p.fail e
    | (p, .ok true) => runCommand f tested (p.setStatus 0) body
    | (p, .ok false) => runCase f tested p s arms

def runSimple : Nat → Bool → Proc → List (String × Word) → List Word → List Redirect → Nat → Proc × Flow
  | 0, _, p, _, _, _, _ => (p, .finish (.signal 9))
  | f + 1, tested, p, assigns, words, rs, line =>
    let p := { p with line := line, substStatus := none }
    match expandFields f p words with
    | (p, .error e) => p.fail e
    | (p, .ok fields) =>
      match expandRedirects f p rs with
      | (p, .error e) => p.fail e
      | (p, .ok targets) =>
        match expandAssigns f p assigns with
        | (p, .error e) => p.fail e
        | (p, .ok values) =>
          let p := if p.option 'x' then
              p.emit 2 ((p.var? "PS4").getD "" ++ " ".intercalate (values.map (fun (n, v) => n ++ "=" ++ v) ++ fields) ++ "\n")
            else p
          match fields with
          | [] =>
            match p.redirectAll targets with
            | .error e => ((p.complain e).setStatus 2).checkExit tested
            | .ok q =>
              match { q with fds := p.fds }.assignAll values with
              | .error e => p.fail e
              | .ok q => (q.setStatus (q.substStatus.getD 0)).checkExit tested
          | name :: args => runNamed f tested p name args values targets

def runNamed : Nat → Bool → Proc → String → List String → List (String × String) → List (Nat × RedirectKind × String) →
    Proc × Flow
  | 0, _, p, _, _, _, _ => (p, .finish (.signal 9))
  | f + 1, tested, p, name, args, values, targets =>
    if specialBuiltins.contains name then
      match p.assignAll values with
      | .error e => p.fail e
      | .ok p =>
        match p.redirectAll targets with
        | .error e => p.fail e
        | .ok q =>
          let (r, flow) := runBuiltin f tested q name args
          let r := if name == "exec" && args.isEmpty then r else { r with fds := p.fds }
          match flow with
          | .next => r.checkExit tested
          | _ => (r, flow)
    else
      match p.redirectAll targets with
      | .error e => ((p.complain e).setStatus 2).checkExit tested
      | .ok q =>
        match p.funcs.find? (·.1 == name) with
        | some (_, body) =>
          match q.assignFor values with
          | .error e => p.fail e
          | .ok (q, saved) =>
            let (r, flow) := callFunction f tested q body args
            let r := { r.putBack saved with fds := p.fds }
            match flow with
            | .next => r.checkExit tested
            | _ => (r, flow)
        | none =>
          if regularBuiltins.contains name then
            match q.assignFor values with
            | .error e => p.fail e
            | .ok (q, saved) =>
              let (r, flow) := runBuiltin f tested q name args
              let r := { r.putBack saved with fds := p.fds }
              match flow with
              | .next => r.checkExit tested
              | _ => (r, flow)
          else
            let (r, flow) := runProgram f q name args (q.environment values)
            let r := { r with fds := p.fds }
            match flow with
            | .next => r.checkExit tested
            | _ => (r, flow)

def runProgram : Nat → Proc → String → List String → List (String × String) → Proc × Flow
  | 0, p, _, _, _ => (p, .finish (.signal 9))
  | f + 1, p, name, args, env =>
    match p.findProgram name with
    | none => ((p.complain (name ++ ": not found")).setStatus 127, .next)
    | some path =>
      match startProgram f { p with signalled := [] } path name args env with
      | (p, .ok .stopped) => (p, .finish .stopped)
      | (p, .ok (.signal s)) => ((p.noteSignal s).setStatus (Ending.signal s).status, .next)
      | (p, .ok e) => (p.setStatus e.status, .next)
      | (p, .error (.missing _)) => ((p.complain (name ++ ": not found")).setStatus 127, .next)
      | (p, .error .denied) => ((p.complain (name ++ ": Permission denied")).setStatus 126, .next)
      | (p, .error .badFormat) =>
        match p.files.read path with
        | .ok text =>
          let c := p.child name args env
          let (c, flow) := runText f false c text
          let (c, e) := finishShell f c flow
          let p := p.rejoin c
          match e with
          | .stopped => (p, .finish .stopped)
          | _ => (p.setStatus e.status, .next)
        | .error _ => ((p.complain (name ++ ": not found")).setStatus 127, .next)

def callFunction : Nat → Bool → Proc → Command → List String → Proc × Flow
  | 0, _, p, _, _ => (p, .finish (.signal 9))
  | f + 1, tested, p, body, args =>
    let inner := { p with params := { p.params with positional := args }, loops := 0, inFunction := true, hidden := [] }
    let (q, flow) := runCommand f tested inner body
    let q := q.hidden.foldl (fun q (n, v) => q.restoreVar n v) q
    let q := { q with params := { q.params with positional := p.params.positional }, loops := p.loops,
                      inFunction := p.inFunction, hidden := p.hidden }
    match flow with
    | .returned => (q, .next)
    | .broke _ => (q, .next)
    | .continued _ => (q, .next)
    | _ => (q, flow)

def takeSignal : Nat → Proc → Nat → Proc × Flow
  | 0, p, _ => (p, .finish (.signal 9))
  | f + 1, p, s =>
    match p.traps.find? (·.1 == s) with
    | some (_, action) =>
      if action.isEmpty || s == 9 then (if s == 9 then (p, .finish (.signal 9)) else (p.setStatus 0, .next))
      else
        match runText f false p action with
        | (q, .next) => (q.setStatus 0, .next)
        | r => r
    | none =>
      if s == 17 || s == 18 || s == 28 || s == 23 then (p.setStatus 0, .next) else (p, .finish (.signal s))

def runBuiltin : Nat → Bool → Proc → String → List String → Proc × Flow
  | 0, _, p, _, _ => (p, .finish (.signal 9))
  | f + 1, tested, p, name, args =>
    let under := if name == "eval" || name == "." then some name else none
    let (q, flow) := builtinBody f tested { p with runningText := under } name args
    ({ q with runningText := p.runningText }, flow)

def builtinBody : Nat → Bool → Proc → String → List String → Proc × Flow
  | 0, _, p, _, _ => (p, .finish (.signal 9))
  | f + 1, tested, p, name, args =>
    let number (s : String) : Option Nat := if !s.isEmpty && s.all Char.isDigit then s.toNat? else none
    match name with
    | "echo" => ((p.emit 1 (echoText args)).setStatus 0, .next)
    | "printf" =>
      let illegal := match args with
        | a :: _ => if a != "--" && a.length > 1 && a.startsWith "-" then (a.toList.drop 1).head? else none
        | [] => none
      let args := match args with
        | "--" :: rest => rest
        | _ => args
      match illegal, args with
      | some c, _ => ((p.complain ("printf: Illegal option -" ++ String.singleton c)).setStatus 2, .next)
      | none, format :: rest =>
        let r := printfText format rest
        let p := r.warnings.foldl (fun p w => p.complain ("printf: " ++ w)) p
        match r.fatal with
        | some e => (((p.complain ("printf: " ++ e)).emit 1 r.text).setStatus 2, .next)
        | none => ((p.emit 1 r.text).setStatus (if r.warnings.isEmpty then 0 else 1), .next)
      | none, [] => ((p.complain "printf: usage: printf format [arg ...]").setStatus 2, .next)
    | "true" | ":" => (p.setStatus 0, .next)
    | "false" => (p.setStatus 1, .next)
    | "test" | "[" =>
      match testCommand p.query (name == "[") args with
      | .ok n => (p.setStatus n, .next)
      | .error e => ((p.complain (name ++ ": " ++ e)).setStatus 2, .next)
    | "exit" =>
      match args with
      | [] => (p, .finish (.code (p.exiting.getD p.status)))
      | a :: _ =>
        match number a with
        | some n => (p, .finish (.code (n % 256)))
        | none => p.fail ("exit: Illegal number: " ++ a)
    | "return" =>
      match args with
      | [] => (p, .returned)
      | a :: _ =>
        match number a with
        | some n => (p.setStatus (n % 256), .returned)
        | none => p.fail ("return: Illegal number: " ++ a)
    | "break" | "continue" =>
      let n := match args with
        | [] => some 1
        | a :: _ => (number a).bind fun n => if n = 0 then none else some n
      match n with
      | none => p.fail (name ++ ": Illegal number: " ++ args.headD "")
      | some n =>
        let n := min n p.loops
        if n = 0 then (p.setStatus 0, .next)
        else (p.setStatus 0, if name == "break" then .broke n else .continued n)
    | "shift" =>
      match (match args with
        | [] => some 1
        | a :: _ => number a) with
      | none => p.fail ("shift: Illegal number: " ++ args.headD "")
      | some n =>
        if n > p.params.positional.length then p.fail "shift: can't shift that many"
        else ({ p with params := { p.params with positional := p.params.positional.drop n } }.setStatus 0, .next)
    | "set" => setBuiltin p args
    | "export" | "readonly" =>
      let shown := if name == "export" then p.params.exported else p.params.readonly
      match shellOptions ['p'] [] (args.length + 1) args with
      | .error e => p.fail (name ++ ": " ++ e)
      | .ok (given, args) =>
      match args, given.isEmpty with
      | [], _ | _, false => ((p.emit 1 (p.listVars (name ++ " ") shown)).setStatus 0, .next)
      | _, true =>
        let step (p : Proc) (a : String) : Except String Proc :=
          let (n, v) := match a.splitOn "=" with
            | n :: v :: more => (n, some ("=".intercalate (v :: more)))
            | _ => (a, none)
          if !isName n then .error (name ++ ": " ++ n ++ ": bad variable name")
          else do
            let p ← match v with
              | some v => p.setVar n v
              | none => pure p
            pure (if name == "export" then p.exportVar n else p.markReadonly n)
        match args.foldlM step p with
        | .ok p => (p.setStatus 0, .next)
        | .error e => p.fail e
    | "unset" =>
      match shellOptions ['f', 'v'] [] (args.length + 1) args with
      | .error e => p.fail ("unset: " ++ e)
      | .ok (given, names) =>
      let kind := (given.getLast?.map (·.1)).getD ' '
      let step (p : Proc) (n : String) : Except String Proc :=
        if kind == 'f' then .ok { p with funcs := p.funcs.filter (·.1 != n) }
        else if kind == ' ' && (p.var? n).isNone then .ok { p with funcs := p.funcs.filter (·.1 != n) }
        else p.unsetVar n
      match names.foldlM step p with
      | .ok p => (p.setStatus 0, .next)
      | .error e => p.fail ("unset: " ++ e)
    | "eval" => runText f tested p (" ".intercalate args)
    | "." =>
      match args with
      | file :: _ =>
        let source (text : String) : Proc × Flow :=
          match runText f tested p text with
          | (q, .returned) => (q, .next)
          | r => r
        if Path.hasSlash file then
          match p.files.read (p.resolve file) with
          | .ok text => source text
          | .error _ => p.fail ("cannot open " ++ file ++ ": No such file")
        else
          match searchPath.findSome? (fun d => (p.files.read (d ++ "/" ++ file)).toOption) with
          | some text => source text
          | none => p.fail (file ++ ": not found")
      | [] => (p.setStatus 0, .next)
    | "exec" =>
      match args with
      | [] => (p.setStatus 0, .next)
      | prog :: rest =>
        match p.findProgram prog with
        | none => (p.complain ("exec: " ++ prog ++ ": not found"), .finish (.code 127))
        | some path =>
          match startProgram f p path prog rest (p.environment []) with
          | (p, .ok e) => (p, .finish e)
          | (p, .error .denied) => (p.complain ("exec: " ++ prog ++ ": Permission denied"), .finish (.code 126))
          | (p, .error _) => (p.complain ("exec: " ++ prog ++ ": not found"), .finish (.code 127))
    | "trap" =>
      match args with
      | [] =>
        let listed := (p.traps.mergeSort fun a b => decide (a.1 ≤ b.1)).map fun (n, action) =>
          "trap -- " ++ shellQuote action ++ " " ++ conditionName n ++ "\n"
        ((p.emit 1 (String.join listed)).setStatus 0, .next)
      | first :: rest =>
        match first.toList with
        | '-' :: c :: _ =>
          if first == "--" then builtinBody f tested p "trap" rest
          else p.fail ("trap: Illegal option -" ++ String.singleton c)
        | _ =>
        let (action, conditions) :=
          if rest.isEmpty || (trapCondition first).isSome then (none, args)
          else if first == "-" then (none, rest)
          else (some first, rest)
        let (p, bad) := conditions.foldl (fun (p, bad) c =>
          if bad then (p, bad) else
          match trapCondition c with
          | some n =>
            let others := p.traps.filter (·.1 != n)
            ({ p with traps := match action with
                | some a => others ++ [(n, a)]
                | none => others }, bad)
          | none => (p.complain ("trap: " ++ c ++ ": bad trap"), true)) (p, false)
        (p.setStatus (if bad then 1 else 0), .next)
    | "times" => ((p.emit 1 "0m0.000000s 0m0.000000s\n0m0.000000s 0m0.000000s\n").setStatus 0, .next)
    | "cd" =>
      match shellOptions ['L', 'P'] [] (args.length + 1) args with
      | .error e => ((p.complain ("cd: " ++ e)).setStatus 2, .next)
      | .ok (_, args) =>
      let target := match args with
        | [] => p.var? "HOME"
        | "-" :: _ => p.var? "OLDPWD"
        | d :: _ => some d
      match target with
      | none => ((p.complain "cd: HOME not set").setStatus 2, .next)
      | some d =>
        let dir := p.resolve d
        match p.files.lookup dir with
        | .ok .dir =>
          let q := { p with cwd := dir }
          let q := (q.setVar "OLDPWD" p.cwd).toOption.getD q
          let q := (q.setVar "PWD" dir).toOption.getD q
          let q := if args.head? == some "-" then q.emit 1 (dir ++ "\n") else q
          (q.setStatus 0, .next)
        | _ => ((p.complain ("cd: can't cd to " ++ d)).setStatus 2, .next)
    | "pwd" =>
      match shellOptions ['L', 'P'] [] (args.length + 1) args with
      | .error e => ((p.complain ("pwd: " ++ e)).setStatus 2, .next)
      | .ok _ => ((p.emit 1 (p.cwd ++ "\n")).setStatus 0, .next)
    | "read" =>
      match shellOptions ['r'] ['p'] (args.length + 1) args with
      | .error e => ((p.complain ("read: " ++ e)).setStatus 2, .next)
      | .ok (given, names) =>
      let raw := given.any (·.1 == 'r')
      if names.isEmpty then ((p.complain "read: arg count").setStatus 2, .next)
      else
        let (line, ended, rest) := readInputLine raw p.pending.toList
        let p := p.setPending (String.ofList rest)
        match p.assignAll (readAssignments p.params.ifs names line) with
        | .ok p => (p.setStatus (if ended then 0 else 1), .next)
        | .error e => ((p.complain ("read: " ++ e)).setStatus 2, .next)
    | "wait" =>
      match shellOptions [] [] (args.length + 1) args with
      | .error e => ((p.complain ("wait: " ++ e)).setStatus 2, .next)
      | .ok (_, args) =>
      match args with
      | [] => ({ p with sleepers := [] }.setStatus 0, .next)
      | _ =>
        let step (acc : Except String Proc) (a : String) : Except String Proc := do
          let p ← acc
          let pid ← if a.startsWith "%" then
              match p.jobProcess a with
              | some n => pure (some n)
              | none => throw ("wait: No such job: " ++ a)
            else
              match number a with
              | some n => pure (some n)
              | none => throw ("wait: Illegal number: " ++ a)
          match pid.bind fun n => p.jobs.find? (·.1 == n) with
          | some (n, s) =>
            let p := match p.signalled.find? (·.1 == n) with
              | some (_, sig) => { p with signalled := p.signalled.filter (·.1 != n) }.noteSignal sig
              | none => p
            pure ({ p with sleepers := p.sleepers.erase n }.setStatus s)
          | none => pure (p.setStatus 127)
        match args.foldl step (.ok p) with
        | .ok p => (p, .next)
        | .error e => ((p.complain e).setStatus 2, .next)
    | "kill" =>
      let usage := (p.complain ("kill: usage: kill [-s sigspec | -signum | -sigspec] [pid | job]... or\n" ++
        "kill -l [exitstatus]")).setStatus 2
      let rec options : Nat → List String → Bool × Option Nat → Except String (Bool × Option Nat × List String)
        | 0, rest, (l, s) => .ok (l, s, rest)
        | _ + 1, [], (l, s) => .ok (l, s, [])
        | f + 1, a :: rest, (l, s) =>
          if a == "--" then .ok (l, s, rest)
          else if a.startsWith "-" && a.length > 1 then
            let rec letters : List Char → List String → Bool × Option Nat →
                Except String (Bool × Option Nat × List String)
              | [], more, acc => .ok (acc.1, acc.2, more)
              | 'l' :: cs, more, (_, s) => letters cs more (true, s)
              | 's' :: cs, more, (l, _) =>
                let (v, more) := if cs.isEmpty then (more.head?, more.drop 1) else (some (String.ofList cs), more)
                match v with
                | none => .error "No arg for -s option"
                | some v =>
                  match signalNumber v with
                  | some n => .ok (l, some n, more)
                  | none => .error ("invalid signal number or name: " ++ v)
              | c :: _, _, _ => .error ("Illegal option -" ++ String.singleton c)
            match letters (a.toList.drop 1) rest (l, s) with
            | .ok (l, s, more) => options f more (l, s)
            | .error e => .error e
          else .ok (l, s, a :: rest)
      let parsed : Except String (Bool × Option Nat × List String) :=
        match args with
        | first :: rest =>
          if first.startsWith "-" then
            match signalNumber (first.drop 1).toString with
            | some n => .ok (false, some n, rest)
            | none => options (args.length + 1) args (false, none)
          else .ok (false, none, args)
        | [] => .ok (false, none, [])
      match args, parsed with
      | [], _ => (usage, .next)
      | _, .error e => ((p.complain ("kill: " ++ e)).setStatus 2, .next)
      | _, .ok (list, sig, targets) =>
        let sig := if !list && sig.isNone then some 15 else sig
        if (sig.isNone || targets.isEmpty) != list then (usage, .next)
        else if list then
          match targets with
          | [] =>
            let names := (List.range 64).map fun i => (signalName? (i + 1)).getD (toString (i + 1))
            ((p.emit 1 (String.join (("0" :: names).map (· ++ "\n")))).setStatus 0, .next)
          | t :: _ =>
            match number t with
            | none => ((p.complain ("kill: Illegal number: " ++ t)).setStatus 2, .next)
            | some n =>
              let n := if n > 128 then n - 128 else n
              match signalName? n with
              | some name => ((p.emit 1 (name ++ "\n")).setStatus 0, .next)
              | none =>
                if 0 < n && n < 65 then ((p.emit 1 (toString n ++ "\n")).setStatus 0, .next)
                else ((p.complain ("kill: invalid signal number or exit status: " ++ t)).setStatus 2, .next)
        else
          let s := sig.getD 15
          let known (t : String) : Bool :=
            (number t).isSome || (t.startsWith "-" && (number (t.drop 1).toString).isSome) ||
              (t.startsWith "%" && (p.jobProcess t).isSome)
          match targets.find? (!known ·) with
          | some bad =>
            if bad.startsWith "%" then ((p.complain ("kill: No such job: " ++ bad)).setStatus 2, .next)
            else ((p.complain ("kill: Illegal number: " ++ bad)).setStatus 2, .next)
          | none =>
            let mine (t : String) : Bool := t == toString p.params.pid || t == "0" || t == "-" ++ toString p.params.pid
            let sleeping := targets.filterMap fun t => (number t).filter p.sleepers.contains
            let p := if s == 0 || [17, 18, 19, 20, 21, 22, 23, 28].contains s then p
              else { p with sleepers := p.sleepers.filter (!sleeping.contains ·),
                            jobs := p.jobs.map fun (n, st) => if sleeping.contains n then (n, 128 + s) else (n, st),
                            signalled := sleeping.map (·, s) ++ p.signalled }
            let others := targets.filter fun t => !mine t && !((number t).any sleeping.contains)
            let p := others.foldl (fun p _ => p.complain "kill: No such process") p
            if targets.any mine then
              if s == 0 then (p.setStatus (if others.isEmpty then 0 else 1), .next)
              else
                match takeSignal f p s with
                | (q, .next) => (q.setStatus (if others.isEmpty then q.status else 1), .next)
                | r => r
            else (p.setStatus (if others.isEmpty then 0 else 1), .next)
    | "local" =>
      if !p.inFunction then ((p.complain "local: not in a function").setStatus 2, .next)
      else
        let step (p : Proc) (a : String) : Except String Proc :=
          let (n, v) := match a.splitOn "=" with
            | n :: v :: more => (n, some ("=".intercalate (v :: more)))
            | _ => (a, none)
          let p := if p.hidden.any (·.1 == n) then p else { p with hidden := p.hidden ++ [(n, p.var? n)] }
          match v with
          | some v => p.setVar n v
          | none => .ok p
        match args.foldlM step p with
        | .ok p => (p.setStatus 0, .next)
        | .error e => ((p.complain ("local: " ++ e)).setStatus 2, .next)
    | "command" =>
      match commandTarget args with
      | some (n :: rest) =>
        if specialBuiltins.contains n || regularBuiltins.contains n then runBuiltin f tested p n rest
        else runProgram f p n rest (p.environment [])
      | _ =>
        match builtinOptions ['p', 'v', 'V'] args with
        | .error (_, c) => ((p.complain ("command: Illegal option -" ++ String.singleton c)).setStatus 2, .next)
        | .ok (given, n :: _) =>
          if given.contains 'v' || given.contains 'V' then
            let brief := !given.contains 'V'
            match p.describe n brief with
            | some text => ((p.emit 1 (text ++ "\n")).setStatus 0, .next)
            | none => ((if brief then p else p.emit 1 (n ++ ": not found\n")).setStatus 127, .next)
          else (p.setStatus 0, .next)
        | .ok (_, []) => (p.setStatus 0, .next)
    | "type" =>
      let (p, bad) := args.foldl (fun (p, bad) n =>
        match p.describe n false with
        | some text => (p.emit 1 (text ++ "\n"), bad)
        | none => (p.emit 1 (n ++ ": not found\n"), true)) (p, false)
      (p.setStatus (if bad then 127 else 0), .next)
    | "alias" =>
      if args.isEmpty then ((p.emit 1 (listAliases p.aliases)).setStatus 0, .next)
      else
        let (aliases, shown, missing) := args.foldl (fun (aliases, shown, missing) a =>
          let cs := a.toList
          let n := cs.take 1 ++ (cs.drop 1).takeWhile (· != '=')
          if n.length == cs.length then
            match aliases.find? (·.1 == a) with
            | some (_, v) => (aliases, shown ++ a ++ "=" ++ shellQuote v ++ "\n", missing)
            | none => (aliases, shown, missing ++ "alias: " ++ a ++ " not found\n")
          else (setAlias aliases (String.ofList n) (String.ofList (cs.drop (n.length + 1))), shown, missing))
          (p.aliases, "", "")
        ((({ p with aliases } : Proc).emit 2 missing |>.emit 1 shown).setStatus (if missing.isEmpty then 0 else 1),
          .next)
    | "unalias" =>
      match builtinOptions ['a'] args with
      | .error (given, c) =>
        if given.contains 'a' then ({ p with aliases := [] }.setStatus 0, .next)
        else ((p.complain ("unalias: Illegal option -" ++ String.singleton c)).setStatus 2, .next)
      | .ok (given, names) =>
        if given.contains 'a' then ({ p with aliases := [] }.setStatus 0, .next)
        else
          let missing := names.filter fun n => !p.aliases.any (·.1 == n)
          let p := { p with aliases := p.aliases.filter fun a => !names.contains a.1 }
          ((p.emit 2 (String.join (missing.map fun n => "unalias: " ++ n ++ " not found\n"))).setStatus
            (if missing.isEmpty then 0 else 1), .next)
    | "umask" =>
      match shellOptions ['S'] [] (args.length + 1) args with
      | .error e => ((p.complain ("umask: " ++ e)).setStatus 2, .next)
      | .ok (given, args) =>
      match args with
      | [] =>
        let shown := if given.isEmpty then octalText 4 p.mask else symbolicMask p.mask
        ((p.emit 1 (shown ++ "\n")).setStatus 0, .next)
      | m :: _ =>
        match readMask p.mask m with
        | .ok mask => ({ p with mask }.setStatus 0, .next)
        | .error e => ((p.complain ("umask: " ++ e)).setStatus 2, .next)
    | "ulimit" => ((if args.isEmpty || args == ["-f"] then p.emit 1 "unlimited\n" else p).setStatus 0, .next)
    | "getopts" =>
      match args with
      | optstring :: var :: rest =>
        let words := if rest.isEmpty then p.params.positional else rest
        let optind := ((p.var? "OPTIND").bind String.toNat?).getD 1
        let (cursorInd, cursorOff) := p.optionCursor
        let optind := if optind > words.length + 1 || optind = 0 then 1 else optind
        let offset := if optind == cursorInd then cursorOff else none
        let (c, arg, msg, ind, off, done) := getoptsStep optstring words optind offset
        let p := match msg with
          | some m => p.emit 2 (m ++ "\n")
          | none => p
        let set (p : Proc) (n v : String) : Proc := (p.setVar n v).toOption.getD p
        let p := match arg with
          | some a => set p "OPTARG" a
          | none => if done then p else p.restoreVar "OPTARG" none
        let p := set (set p "OPTIND" (toString ind)) var (String.singleton c)
        ({ p with optionCursor := (ind, off) }.setStatus (if done then 1 else 0), .next)
      | _ => ((p.complain "getopts: Usage: getopts optstring var [arg...]").setStatus 2, .next)
    | _ => (p.setStatus 0, .next)

def setBuiltin : Proc → List String → Proc × Flow
  | p, [] => ((p.emit 1 (p.listVars "" (p.params.vars.map (·.1)))).setStatus 0, .next)
  | p, args =>
    let rec go : Nat → Proc → List String → Except String (Proc × Option (List String))
      | 0, p, _ => .ok (p, none)
      | _ + 1, p, [] => .ok (p, none)
      | _ + 1, p, "--" :: rest => .ok (p, some rest)
      | _ + 1, p, "-" :: rest => .ok ((p.setOption 'x' false).setOption 'v' false, if rest.isEmpty then none else some rest)
      | f + 1, p, "+" :: rest => go f p rest
      | f + 1, p, a :: rest =>
        if (a.startsWith "-" || a.startsWith "+") && a.length > 1 then
          let on := a.startsWith "-"
          let letters := a.toList.drop 1
          if letters == ['o'] then
            match rest with
            | o :: more =>
              match optionLetters.find? (·.1 == o) with
              | some (_, some c) => go f (p.setOption c on) more
              | some (_, none) => go f p more
              | none => .error ("set: Illegal option -o " ++ o)
            | [] =>
              let state (c : Option Char) : Bool := c.any p.option
              let listing := if on then
                  "Current option settings\n" ++ String.join (optionLetters.map fun (n, c) =>
                    n ++ String.ofList (List.replicate (16 - n.length) ' ') ++ (if state c then "on" else "off") ++ "\n")
                else String.join (optionLetters.map fun (n, c) =>
                  "set " ++ (if state c then "-o " else "+o ") ++ n ++ "\n")
              .ok (p.emit 1 listing, none)
          else
            match letters.find? fun c => !optionOrder.contains c with
            | some c => .error ("set: Illegal option " ++ (if on then "-" else "+") ++ String.singleton c)
            | none => go f (letters.foldl (fun p c => p.setOption c on) p) rest
        else .ok (p, some (a :: rest))
    match go (args.length + 1) p args with
    | .error e => p.fail e
    | .ok (p, positional) =>
      let p := match positional with
        | some ps => { p with params := { p.params with positional := ps } }
        | none => p
      (p.setStatus 0, .next)

def startProgram : Nat → Proc → String → String → List String → List (String × String) →
    Proc × Except StartFailure Ending
  | 0, p, _, _, _, _ => (p, .ok (.signal 9))
  | f + 1, p, path, name, args, env =>
    match p.files.lookup path with
    | .error e => (p, .error (.missing e))
    | .ok .dir => (p, .error .denied)
    | .ok (.tool t) =>
      let c := p.child name args env
      let (c, e) := runTool f c t args
      (p.rejoin c, .ok e)
    | .ok (.file text runnable) =>
      if !runnable then (p, .error .denied)
      else if text.startsWith "#!" then
        let first := (text.toList.drop 2).takeWhile (· ≠ '\n')
        let words := ((String.ofList first).split (fun c => c == ' ' || c == '\t')).toList.map (·.toString)
        let words := words.filter (· ≠ "")
        let shellNamed (w : String) := w == "sh" || w == "dash" || w == "bash"
        let interpreter := words.head?.getD ""
        let started := if Path.hasSlash name then name else path
        match p.files.lookup interpreter with
        | .ok (.tool t) =>
          if shellNamed t || (t == "env" && (words.drop 1).head?.any shellNamed) then
            let c := p.child started args env
            let (c, flow) := runText f false c text
            let (c, e) := finishShell f c flow
            (p.rejoin c, .ok e)
          else
            let c := p.child interpreter (words.drop 1 ++ [started] ++ args) env
            let (c, e) := runTool f c t (words.drop 1 ++ [started] ++ args)
            (p.rejoin c, .ok e)
        | _ => (p, .error (.missing "no such file or directory"))
      else (p, .error .badFormat)

def execProgram : Nat → Proc → String → String → List String → List (String × String) →
    Proc × Except StartFailure Ending
  | 0, p, _, _, _, _ => (p, .ok (.signal 9))
  | f + 1, p, path, name, args, env =>
    match startProgram f p path name args env with
    | (p, .error .badFormat) =>
      match p.files.read path with
      | .ok text =>
        let c := p.child (if Path.hasSlash name then name else path) args env
        let (c, flow) := runText f false c text
        let (c, e) := finishShell f c flow
        (p.rejoin c, .ok e)
      | .error e => (p, .error (.missing e))
    | r => r

def runBatches : Nat → Proc → XargsPlan → Proc × Nat
  | 0, p, _ => (p, 0)
  | f + 1, p, plan =>
    match plan.commands with
    | [] => (p, if plan.anyFailed then 123 else 0)
    | command :: more =>
      let name := command.headD "echo"
      let p := if plan.verbose then p.emit 2 (" ".intercalate command ++ "\n") else p
      let env := p.environment []
      match p.findProgram name with
      | none => (p.emit 2 ("xargs: " ++ name ++ ": No such file or directory\n"), 127)
      | some path =>
        let fds := p.fds
        let (q, r) := execProgram f (p.openStream "") path name (command.drop 1) env
        let q := { q with fds }
        match r with
        | .error .denied => (q.emit 2 ("xargs: " ++ name ++ ": Permission denied\n"), 126)
        | .error _ => (q.emit 2 ("xargs: " ++ name ++ ": No such file or directory\n"), 127)
        | .ok (.code n) =>
          if n == 255 then (q.emit 2 ("xargs: " ++ name ++ ": exited with status 255; aborting\n"), 124)
          else runBatches f q { plan with commands := more, anyFailed := plan.anyFailed || n != 0 }
        | .ok (.signal n) => (q.emit 2 ("xargs: " ++ name ++ ": terminated by signal " ++ toString n ++ "\n"), 125)
        | .ok .stopped => (q, 125)

def runXargs : Nat → Proc → List String → Proc × Ending
  | 0, p, _ => (p, .signal 9)
  | f + 1, p, args =>
    match xargsStart p args with
    | .error e => (p.emit 2 e, .code 1)
    | .ok (plan, p) =>
      let p := plan.warnings.foldl (fun p w => p.emit 2 ("xargs: " ++ w ++ "\n")) p
      let (p, first) := runBatches f p { plan with commands := plan.commands.take plan.faultAt }
      if first != 0 && first != 123 then (p, .code first)
      else
        let p := match plan.fault with
          | some msg => p.emit 2 ("xargs: " ++ msg ++ "\n")
          | none => p
        let (p, status) := runBatches f p
          { plan with commands := plan.commands.drop plan.faultAt, anyFailed := first == 123 }
        if status != 0 && status != 123 then (p, .code status)
        else (p, .code (if plan.fault.isSome then 1 else status))

def runEnvProgram : Nat → Proc → EnvRequest → List (String × String) → Proc × Ending
  | 0, p, _, _ => (p, .signal 9)
  | f + 1, p, r, env =>
    match r.command with
    | [] => (p, .code 0)
    | prog :: more =>
      let (steps, fault) := r.signalSteps p.ignoredSignals
      let p := p.emit 2 steps
      match fault with
      | some msg => (p.emit 2 msg, .code 125)
      | none =>
        let cwd := p.cwd
        let moved : Except String Proc := match r.dir with
          | none => .ok p
          | some d =>
            let p := p.emit 2 (r.step ("chdir:    " ++ quoteName d ++ "\n"))
            match p.files.lookup (p.resolve d) with
            | .ok .dir => .ok { p with cwd := p.resolve d }
            | .ok _ => .error ("env: cannot change directory to " ++ quoteName d ++ ": Not a directory\n")
            | .error _ => .error ("env: cannot change directory to " ++ quoteName d ++ ": No such file or directory\n")
        let hint := if prog.contains ' ' then "env: use -[v]S to pass options in shebang lines\n" else ""
        match moved with
        | .error msg =>
          let p := match r.dir with
            | some d => p.emit 2 (r.step ("chdir:    " ++ quoteName d ++ "\n"))
            | none => p
          (p.emit 2 msg, .code 125)
        | .ok p =>
          let p := p.emit 2 r.runSteps
          let back (q : Proc) : Proc := { q with cwd }
          match p.findProgram prog with
          | none => (back (p.emit 2 ("env: " ++ quoteText prog ++ ": No such file or directory\n" ++ hint)), .code 127)
          | some path =>
            match execProgram f p path prog more env with
            | (p, .ok e) => (back p, e)
            | (p, .error .denied) => (back (p.emit 2 ("env: " ++ quoteText prog ++ ": Permission denied\n")), .code 126)
            | (p, .error _) =>
              (back (p.emit 2 ("env: " ++ quoteText prog ++ ": No such file or directory\n" ++ hint)), .code 127)

def runTool : Nat → Proc → String → List String → Proc × Ending
  | 0, p, _, _ => (p, .signal 9)
  | f + 1, p, tool, args =>
    match tool with
    | "sh" | "dash" | "bash" =>
      let opts := args.takeWhile fun a => a.startsWith "-" && a != "-c" && a.length > 1 && a != "--"
      let p := opts.foldl (fun p a => (a.toList.drop 1).foldl (fun p c => p.setOption c (a.startsWith "-")) p) p
      let args := args.drop opts.length
      let shell (p : Proc) (text : String) : Proc × Ending :=
        let (q, flow) := runText f false p text
        finishShell f q flow
      match args with
      | "-c" :: script :: rest =>
        shell { p with params := { p.params with arg0 := rest.head?.getD p.params.arg0, positional := rest.drop 1 } }
          script
      | "-c" :: [] => (p.emit 2 (p.params.arg0 ++ ": 0: -c requires an argument\n"), .code 2)
      | file :: rest =>
        match p.files.read (p.resolve file) with
        | .ok text => shell { p with params := { p.params with arg0 := file, positional := rest } } text
        | .error _ => (p.emit 2 (p.params.arg0 ++ ": 0: cannot open " ++ file ++ ": No such file\n"), .code 2)
      | [] =>
        let (text, p) := p.readAll
        shell p text
    | "sleep" =>
      match sleepProblem args with
      | some msg => (p.emit 2 msg, .code 1)
      | none => (p, if p.waitStops then .stopped else .code 0)
    | "true" => (p, .code 0)
    | "false" => (p, .code 1)
    | "echo" =>
      let isOption (a : String) : Bool := a.length > 1 && a.startsWith "-" && (a.toList.drop 1).all "neE".toList.contains
      let opts := args.takeWhile isOption
      let args := args.drop opts.length
      let letters := String.join opts
      let escapes := (letters.toList.filter (fun c => c == 'e' || c == 'E')).getLast? == some 'e'
      let text := " ".intercalate args
      let (text, cut) := if escapes then systemEchoText (text.length + 1) text.toList else (text, false)
      (p.emit 1 (text ++ if letters.contains 'n' || cut then "" else "\n"), .code 0)
    | "test" | "[" =>
      match systemTest p.query (tool == "[") args with
      | .ok n => (p, .code n)
      | .error e => (p.emit 2 (tool ++ ": " ++ e ++ "\n"), .code 2)
    | "kill" => (p.emit 2 "kill: No such process\n", .code 1)
    | "tee" =>
      let options : OptionSyntax :=
        { flags := ['a', 'i', 'p'], optional := [longOnly 1],
          long := [("append", 'a'), ("ignore-interrupts", 'i'), ("output-error", longOnly 1)] }
      let modes := [["warn"], ["warn-nopipe"], ["exit"], ["exit-nopipe"]]
      match options.read args with
      | .error e => (p.emit 2 (e.message "tee"), .code 1)
      | .ok o =>
        let mode : Except String String := match o.last? (longOnly 1) with
          | some v => if v.isEmpty then .ok "warn-nopipe" else readChoice "tee" "output-error" modes v
          | none => .ok "warn-nopipe"
        match mode with
        | .error e => (p.emit 2 e, .code 1)
        | .ok _ =>
          let append := o.has 'a'
          let (p, bad, opened) := o.operands.foldl (fun (p, bad, opened) n =>
            match p.files.writeNamed (p.resolve n) n "" append with
            | .ok fs => ({ p with files := fs }, bad, opened ++ [p.resolve n])
            | .error e =>
              let why := if e == "is a directory" then "Is a directory"
                else if e == "not a directory" then "Not a directory"
                else "No such file or directory"
              (p.emit 2 ("tee: " ++ shownName n ++ ": " ++ why ++ "\n"), true, opened)) (p, false, [])
          let (text, p) := p.readAll
          let targets := if append then opened else opened.eraseDups
          let p := targets.foldl (fun p path =>
            match p.files.write path text true with
            | .ok fs => { p with files := fs }
            | .error _ => p) p
          (p.emit 1 text, .code (if bad then 1 else 0))
    | "env" =>
      match readEnvArgs (4 * (String.join args).length + 4 * args.length + 8) args {} with
      | .error (msg, code) => (p.emit 2 msg, .code code)
      | .ok r =>
        let (steps, fault) := r.setup
        let p := p.emit 2 steps
        let env := r.environment (p.environment [])
        match fault, r.command, r.dir with
        | some msg, _, _ => (p.emit 2 msg, .code 125)
        | none, _ :: _, _ =>
          if r.nul then (p.emit 2 ("env: cannot specify --null (-0) with command\n" ++ tryHelp "env"), .code 125)
          else runEnvProgram f p r env
        | none, [], some _ =>
          (p.emit 2 ("env: must specify command with --chdir (-C)\n" ++ tryHelp "env"), .code 125)
        | none, [], none => (p.emit 1 (environmentText r.nul env), .code 0)
    | "xargs" => runXargs f p args
    | "printenv" =>
      let (text, code) := printenvText (p.environment []) args
      (p.emit 1 text, .code code)
    | _ =>
      match tool? tool with
      | some run =>
        let (input, p) := p.toolInput
        let shell := fun (script : String) =>
          let inner := { p with captured := "", fds := p.fds.point 1 .capture, traps := [] }
          let (q, flow) := runText f false inner script
          (finishShell f q flow).1.captured
        p.report (run { input with shell } args)
      | none => (p, .code 0)

end

def runScript (fuel : Nat) (p : Proc) (text : String) : Proc × Ending :=
  let (q, flow) := runText fuel false p text
  finishShell fuel q flow

end Shell
end JuryCaptions
