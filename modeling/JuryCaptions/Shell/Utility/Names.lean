import JuryCaptions.Shell.Utility
/-!
Names of files: `basename`, `dirname`, `realpath`, `readlink`, `pwd` and
`uname`.
-/

namespace JuryCaptions
namespace Shell

def baseName (path suffix : String) : String :=
  let cs := path.toList
  if cs.isEmpty then ""
  else if cs.all (· == '/') then "/"
  else
    let trimmed := (cs.reverse.dropWhile (· == '/')).reverse
    let base := String.ofList (trimmed.reverse.takeWhile (· != '/')).reverse
    if !suffix.isEmpty && base != suffix && base.endsWith suffix then
      String.ofList (base.toList.take (base.length - suffix.length))
    else base

def dirName (path : String) : String :=
  let cs := path.toList
  let trimmed := (cs.reverse.dropWhile (· == '/')).reverse
  if trimmed.isEmpty then (if cs.isEmpty then "." else "/")
  else
    let upto := (trimmed.reverse.dropWhile (· != '/')).reverse
    if upto.isEmpty then "."
    else
      let d := (upto.reverse.dropWhile (· == '/')).reverse
      if d.isEmpty then "/" else String.ofList d

def basenameSyntax : OptionSyntax :=
  { flags := ['a', 'z'], valued := ['s'], long := [("multiple", 'a'), ("suffix", 's'), ("zero", 'z')] }

def basenameTool (t : ToolInput) (args : List String) : ToolOutcome :=
  match basenameSyntax.read args with
  | .error e => t.fail (e.message "basename") 1
  | .ok o =>
    let ending := if o.has 'z' then "\x00" else "\n"
    let many := o.has 'a' || o.has 's'
    let suffix := (o.last? 's').getD ""
    match o.operands with
    | [] => t.fail (missingOperand "basename") 1
    | names =>
      if many then t.done (String.join (names.map fun n => baseName n suffix ++ ending))
      else match names with
        | [p] => t.done (baseName p "" ++ ending)
        | [p, s] => t.done (baseName p s ++ ending)
        | _ => t.fail (extraOperand "basename" (names.getD 2 "")) 1

def dirnameTool (t : ToolInput) (args : List String) : ToolOutcome :=
  match ({ flags := ['z'], long := [("zero", 'z')] } : OptionSyntax).read args with
  | .error e => t.fail (e.message "dirname") 1
  | .ok o =>
    let ending := if o.has 'z' then "\x00" else "\n"
    if o.operands.isEmpty then t.fail (missingOperand "dirname") 1
    else t.done (String.join (o.operands.map fun a => dirName a ++ ending))

/-- How much of a path must exist to be made canonical. -/
inductive PathMode where
  /-- Every part. -/
  | existing
  /-- Every part but the last. -/
  | allButLast
  /-- None of it. -/
  | missing
  deriving BEq

def canonicalPath (fs : Files) (mode : PathMode) (path : String) : Except String String :=
  let parts := Path.elements path
  let slashed := path.endsWith "/"
  let step (acc : Except String (List String)) (item : String × Nat) : Except String (List String) :=
    match acc with
    | .error e => .error e
    | .ok stack =>
      let (part, i) := item
      let last := i + 1 == parts.length
      if part == "." then .ok stack
      else if part == ".." then .ok stack.tail
      else
        let here := "/" ++ "/".intercalate (stack.reverse ++ [part])
        match fs.lookup here with
        | .ok .dir => .ok (part :: stack)
        | .ok _ =>
          if mode == .missing || (last && !slashed) then .ok (part :: stack) else .error "Not a directory"
        | .error "not a directory" => if mode == .missing then .ok (part :: stack) else .error "Not a directory"
        | .error _ =>
          if mode == .missing || (mode == .allButLast && last) then .ok (part :: stack)
          else .error "No such file or directory"
  (parts.zipIdx.foldl step (.ok [])).map fun stack => "/" ++ "/".intercalate stack.reverse

def relativePath (path dir : String) : String :=
  let ps := Path.elements path
  let ds := Path.elements dir
  let common := ((ps.zip ds).takeWhile fun (a, b) => a == b).length
  let steps := List.replicate (ds.length - common) ".." ++ ps.drop common
  if steps.isEmpty then "." else "/".intercalate steps

def within (path dir : String) : Bool :=
  let ds := Path.elements dir
  (Path.elements path).take ds.length == ds

def realpathTool (readlink : Bool) (t : ToolInput) (args : List String) : ToolOutcome :=
  let tool := if readlink then "readlink" else "realpath"
  let opts : OptionSyntax :=
    if readlink then
      { flags := "femnqsvz".toList,
        long := [("canonicalize", 'f'), ("canonicalize-existing", 'e'), ("canonicalize-missing", 'm'),
                 ("no-newline", 'n'), ("quiet", 'q'), ("silent", 's'), ("verbose", 'v'), ("zero", 'z')] }
    else
      { flags := "emqsLPz".toList, valued := [longOnly 1, longOnly 2],
        long := [("canonicalize-existing", 'e'), ("canonicalize-missing", 'm'), ("logical", 'L'),
                 ("physical", 'P'), ("quiet", 'q'), ("relative-to", longOnly 1), ("relative-base", longOnly 2),
                 ("strip", 's'), ("no-symlinks", 's'), ("zero", 'z')] }
  match opts.read args with
  | .error e => t.fail (e.message tool) 1
  | .ok o =>
    let names := o.operands
    if names.isEmpty then t.fail (missingOperand tool) 1
    else
      let ending := if o.has 'z' then "\x00" else if readlink && o.has 'n' then "" else "\n"
      let quiet := if readlink then !o.has 'v' else o.has 'q'
      let mode : PathMode :=
        match (o.given.filter fun (c, _) => c == 'e' || c == 'm').getLast? with
        | some ('e', _) => .existing
        | some _ => .missing
        | none => .allButLast
      let absolute (n : String) : String :=
        let joined := if n.startsWith "/" then n else t.cwd ++ "/" ++ n
        if o.has 'L' then Path.clean joined else joined
      let canonical (n : String) : Except String String :=
        if n.isEmpty then .error "No such file or directory" else canonicalPath t.files mode (absolute n)
      if readlink && !(o.has 'f' || o.has 'e' || o.has 'm') then
        t.finish (names.foldl (fun (r : Report) n =>
          let r := { r with failed := true }
          if quiet then r else r.note (tool ++ ": " ++ shownName n ++ ": " ++
            (if (t.files.lookup (t.resolve n)).isOk then "Invalid argument" else "No such file or directory") ++ "\n"))
          {})
      else
        let dirOf (c : Char) : Except String (Option String) :=
          match o.last? c with
          | some d =>
            match canonical d with
            | .ok path =>
              if mode == .existing && !(t.files.get? path).any (· == .dir) then .error "Not a directory"
              else .ok (some path)
            | .error e => .error e
          | none => .ok none
        match dirOf (longOnly 1), dirOf (longOnly 2) with
        | .error why, _ => t.fail (tool ++ ": " ++ shownName ((o.last? (longOnly 1)).getD "") ++ ": " ++ why ++ "\n") 1
        | _, .error why => t.fail (tool ++ ": " ++ shownName ((o.last? (longOnly 2)).getD "") ++ ": " ++ why ++ "\n") 1
        | .ok relativeTo, .ok base =>
          let relativeTo := match relativeTo, base with
            | some dir, some b => if within dir b then some dir else none
            | none, b => b
            | dir, none => dir
          let shown (path : String) : String :=
            match relativeTo with
            | some dir => if (base.map (within path)).getD true then relativePath path dir else path
            | none => path
          t.finish (names.foldl (fun (r : Report) n =>
            match canonical n with
            | .ok path => r.say (shown path ++ ending)
            | .error why =>
              if quiet then { r with failed := true } else r.warn (tool ++ ": " ++ shownName n ++ ": " ++ why ++ "\n"))
            {})

def pwdTool (t : ToolInput) (args : List String) : ToolOutcome :=
  let opts : OptionSyntax := { flags := ['L', 'P'], long := [("logical", 'L'), ("physical", 'P')] }
  match opts.read args with
  | .error e => t.fail (e.message "pwd") 1
  | .ok o =>
    let note := if o.operands.isEmpty then [] else [(2, "pwd: ignoring non-option arguments\n")]
    { writes := note ++ [(1, t.cwd ++ "\n")], files := t.files }

def unameTool (t : ToolInput) (args : List String) : ToolOutcome :=
  let opts : OptionSyntax :=
    { flags := "asnrvmpio".toList,
      long := [("all", 'a'), ("kernel-name", 's'), ("machine", 'm'), ("processor", 'p'),
               ("hardware-platform", 'i'), ("operating-system", 'o')] }
  match opts.read args with
  | .error e => t.fail (e.message "uname") 1
  | .ok o =>
    match o.operands with
    | extra :: _ => t.fail (extraOperand "uname" extra) 1
    | [] =>
      let bare := o.given.isEmpty
      let parts := (if bare || o.has 's' || o.has 'a' then ["Linux"] else []) ++
        (if o.has 'm' || o.has 'a' then ["x86_64"] else []) ++
        (if o.has 'p' then ["unknown"] else []) ++
        (if o.has 'i' then ["unknown"] else []) ++
        (if o.has 'o' || o.has 'a' then ["GNU/Linux"] else [])
      t.done (" ".intercalate parts ++ "\n")

end Shell
end JuryCaptions
