import JuryCaptions.Shell.Utility
import JuryCaptions.System.Mode
import JuryCaptions.Text.Dates
/-!
Changing the file tree: `touch`, `mkdir`, `rm`, `rmdir`, `cp`, `mv` and
`chmod`.
-/

namespace JuryCaptions
namespace Shell

def reachProblem (r : Except String Entry) : String :=
  match r with
  | .error "not a directory" => "Not a directory"
  | _ => "No such file or directory"

def touchStamp (s : String) : Bool :=
  let (main, secs) : String × Option String := match s.splitOn "." with
    | [m] => (m, none)
    | [m, ss] => (m, some ss)
    | _ => ("", none)
  let digits (x : String) : Bool := !x.isEmpty && x.all Char.isDigit
  let value (cs : List Char) : Nat := cs.foldl (fun n d => 10 * n + (d.toNat - '0'.toNat)) 0
  let cs := main.toList
  let n := cs.length
  if !digits main || !(n == 8 || n == 10 || n == 12) || !(secs.all fun ss => ss.length == 2 && digits ss) then false
  else
    let tail := cs.drop (n - 8)
    let field (k : Nat) : Nat := value ((tail.drop (2 * k)).take 2)
    let year : Option Nat :=
      if n == 12 then some (value (cs.take 4))
      else if n == 10 then
        let yy := value (cs.take 2)
        some (if yy < 69 then 2000 + yy else 1900 + yy)
      else none
    let leap := match year with
      | some y => y % 4 == 0 && (y % 100 != 0 || y % 400 == 0)
      | none => true
    let (month, day, hour, minute) := (field 0, field 1, field 2, field 3)
    let days := match month with
      | 2 => if leap then 29 else 28
      | 4 | 6 | 9 | 11 => 30
      | _ => 31
    let second := (secs.map fun ss => value ss.toList).getD 0
    1 ≤ month && month ≤ 12 && 1 ≤ day && day ≤ days && hour ≤ 23 && minute ≤ 59 && second ≤ 60

def touchTool (t : ToolInput) (args : List String) : ToolOutcome :=
  let opts : OptionSyntax :=
    { flags := ['a', 'c', 'f', 'h', 'm'], valued := ['d', 'r', 't'],
      long := [("no-create", 'c'), ("date", 'd'), ("reference", 'r')] }
  match opts.read args with
  | .error e => t.fail (e.message "touch") 1
  | .ok o =>
    let badStamp := (o.given.filter fun (c, v) => (c == 't' && !touchStamp v) || (c == 'd' && !Dates.valid v)).head?
    let missingReference := (o.given.filter fun (c, v) => c == 'r' && (t.files.get? (t.resolve v)).isNone).head?
    match badStamp, missingReference with
    | some (_, v), _ => t.fail ("touch: invalid date format " ++ quoteText v ++ "\n") 1
    | none, some (_, v) =>
      t.fail ("touch: failed to get attributes of " ++ quoteName v ++ ": No such file or directory\n") 1
    | none, none =>
    if o.operands.isEmpty then t.fail ("touch: missing file operand\n" ++ tryHelp "touch") 1
    else
      let (files, r) := o.operands.foldl (fun (fs, (r : Report)) n =>
        if n.isEmpty then (fs, r.warn "touch: cannot touch '': No such file or directory\n") else
        let failed (e : String) : Report :=
          r.warn ("touch: cannot touch " ++ quoteName n ++ ": " ++
            (if e == "not a directory" then "Not a directory" else if e == "is a directory" then "Is a directory"
              else "No such file or directory") ++ "\n")
        match fs.get? (t.resolve n) with
        | some .dir => (fs.touch [t.resolve n], r)
        | some _ => if n.endsWith "/" then (fs, failed "not a directory") else (fs.touch [t.resolve n], r)
        | none =>
          if o.has 'c' then (fs, r)
          else match fs.writeNamed (t.resolve n) n "" true with
            | .ok fs => (t.made fs (t.resolve n) 0o666, r)
            | .error e => (fs, failed e))
        (t.files, {})
      { t.finish r with files }

def mkdirTool (t : ToolInput) (args : List String) : ToolOutcome :=
  let opts : OptionSyntax :=
    { flags := ['p', 'v'], valued := ['m'], long := [("parents", 'p'), ("verbose", 'v'), ("mode", 'm')] }
  match opts.read args with
  | .error e => t.fail (e.message "mkdir") 1
  | .ok o =>
    let modeOps := (o.last? 'm').map fun m => (m, Mode.parse m)
    if let some (m, none) := modeOps then t.fail ("mkdir: invalid mode " ++ quoteText m ++ "\n") 1
    else if o.operands.isEmpty then t.fail (missingOperand "mkdir") 1
    else
      let parents := o.has 'p'
      let settle (fs : Files) (path : String) : Files :=
        match modeOps with
        | some (_, some ops) =>
          let m := Mode.adjust true t.mask 0o777 ops
          if m == 0o755 then fs else fs.setMode path m
        | _ => t.made fs path 0o777
      let (files, r) := o.operands.foldl (fun (fs, (r : Report)) n =>
        let path := t.resolve n
        let cannot (why : String) := r.warn ("mkdir: cannot create directory " ++ quoteText n ++ ": " ++ why ++ "\n")
        let made (fs : Files) : Files × Report :=
          (settle fs path, if o.has 'v' then r.say ("mkdir: created directory " ++ quoteName n ++ "\n") else r)
        match fs.get? path with
        | some .dir => if parents then (fs, r) else (fs, cannot "File exists")
        | some _ => (fs, cannot "File exists")
        | none =>
          if parents then
            match (Files.prefixes path).find? (fun q => match fs.get? q with
                | some .dir | none => false
                | some _ => true) with
            | some _ =>
              let parts := n.splitOn "/"
              let spelled := ((List.range parts.length).map fun k => "/".intercalate (parts.take (k + 1))).find?
                fun a => !a.isEmpty && match fs.get? (t.resolve a) with
                  | some .dir | none => false
                  | some _ => true
              (fs, r.warn ("mkdir: cannot create directory " ++ quoteText (spelled.getD n) ++ ": Not a directory\n"))
            | none =>
              let parts := n.splitOn "/"
              let ancestors := ((List.range (parts.length - 1)).map fun k => "/".intercalate (parts.take (k + 1))).filter
                fun a => !a.isEmpty && !a.endsWith "/" && t.resolve a != path && fs.get? (t.resolve a) == none
              let r := if o.has 'v' then
                  ancestors.foldl (fun (r : Report) a => r.say ("mkdir: created directory " ++ quoteName a ++ "\n")) r
                else r
              let above := (Files.prefixes path).filter fun q => q != path && fs.get? q == none
              let fs := fs.mkdirAll path
              let fs := above.foldl (fun fs q => t.made fs q (0o777 &&& (0o7777 ^^^ t.mask) ||| 0o300)) fs
              (settle fs path, if o.has 'v' then r.say ("mkdir: created directory " ++ quoteName n ++ "\n") else r)
          else match fs.lookup (Path.dir path) with
            | .ok .dir => made (fs.put path .dir)
            | .ok _ => (fs, cannot "Not a directory")
            | other => (fs, cannot (reachProblem other)))
        (t.files, {})
      { t.finish r with files }

def postOrder (fs : Files) : Nat → String → String → List (String × Bool)
  | 0, _, shown => [(shown, true)]
  | f + 1, path, shown =>
    let lead := if shown.endsWith "/" then shown else shown ++ "/"
    ((fs.list path).toOption.getD []).flatMap (fun (name, e) =>
      if e == .dir then postOrder fs f (Path.join [path, name]) (lead ++ name)
      else [(lead ++ name, false)]) ++ [(shown, true)]

def rmTool (t : ToolInput) (args : List String) : ToolOutcome :=
  let opts : OptionSyntax :=
    { flags := ['f', 'i', 'I', 'r', 'R', 'd', 'v'],
      long := [("force", 'f'), ("recursive", 'r'), ("dir", 'd'), ("verbose", 'v')] }
  match opts.read args with
  | .error e => t.fail (e.message "rm") 1
  | .ok o =>
    let force := o.has 'f'
    let recursive := o.has 'r' || o.has 'R'
    if o.operands.isEmpty then
      if force then { files := t.files } else t.fail (missingOperand "rm") 1
    else
      let (files, r) := o.operands.foldl (fun (fs, (r : Report)) n =>
        let path := t.resolve n
        let cannot (why : String) := r.warn ("rm: cannot remove " ++ quoteName n ++ ": " ++ why ++ "\n")
        let removed (fs : Files) : Files × Report :=
          (fs, if o.has 'v' then r.say ("removed " ++ quoteName n ++ "\n") else r)
        let removedDir : Files × Report :=
          let gone := postOrder fs (fs.entries.length + 1) path n
          (fs.remove path, if o.has 'v' then
            gone.foldl (fun (r : Report) (shown, isDir) =>
              r.say ((if isDir then "removed directory " else "removed ") ++ quoteName shown ++ "\n")) r
            else r)
        let base := Path.base n
        if base == "." || base == ".." then
          (fs, r.warn ("rm: refusing to remove '.' or '..' directory: skipping " ++ quoteName n ++ "\n"))
        else match fs.lookup path with
          | .error e => (fs, if force && e != "not a directory" then r else cannot (reachProblem (.error e)))
          | .ok .dir =>
            if recursive then removedDir
            else if o.has 'd' then
              match fs.list path with
              | .ok [] => removedDir
              | _ => (fs, cannot "Directory not empty")
            else (fs, cannot "Is a directory")
          | .ok _ => removed (fs.remove path))
        (t.files, {})
      { t.finish r with files }

def removeEmptyDir (fs : Files) (path : String) : Except String Files :=
  if Path.base path == "." then .error "Invalid argument"
  else match fs.lookup path with
    | .ok .dir =>
      if path == "/" then .error "Device or resource busy"
      else match fs.list path with
        | .ok [] => .ok (fs.remove path)
        | _ => .error "Directory not empty"
    | .ok _ => .error "Not a directory"
    | other => .error (reachProblem other)

/-- The directories `rmdir -p` removes after an operand: each prefix before a
slash, longest first, without trailing slashes. -/
def parentsOf (n : String) : List String :=
  let cs := (n.toList.reverse.dropWhile (· == '/')).reverse
  let cuts := (List.range cs.length).filter fun i => cs[i]? == some '/'
  cuts.reverse.map fun i =>
    let kept := (cs.take i).reverse.dropWhile (· == '/')
    if kept.isEmpty then "/" else String.ofList kept.reverse

def rmdirTool (t : ToolInput) (args : List String) : ToolOutcome :=
  let opts : OptionSyntax :=
    { flags := ['p', 'v', 'I'],
      long := [("parents", 'p'), ("verbose", 'v'), ("ignore-fail-on-non-empty", 'I')] }
  match opts.read args with
  | .error e => t.fail (e.message "rmdir") 1
  | .ok o =>
    if o.operands.isEmpty then t.fail (missingOperand "rmdir") 1
    else
      let ignorable (why : String) : Bool := o.has 'I' && why == "Directory not empty"
      let attempt (fs : Files) (r : Report) (n : String) : Except (Report × String) (Files × Report) :=
        let r := if o.has 'v' then r.say ("rmdir: removing directory, " ++ quoteName n ++ "\n") else r
        match removeEmptyDir fs (t.resolve n) with
        | .ok fs => .ok (fs, r)
        | .error why => if ignorable why then .error (r, "") else .error (r, why)
      let (files, r) := o.operands.foldl (fun (fs, (r : Report)) n =>
        match attempt fs r n with
        | .error (r, "") => (fs, r)
        | .error (r, why) => (fs, r.warn ("rmdir: failed to remove " ++ quoteName n ++ ": " ++ why ++ "\n"))
        | .ok (fs, r) =>
          if !o.has 'p' then (fs, r)
          else
            let (fs, r, _) := (parentsOf n).foldl (fun (fs, (r : Report), going) d =>
              if !going then (fs, r, false)
              else match attempt fs r d with
                | .ok (fs, r) => (fs, r, true)
                | .error (r, "") => (fs, r, false)
                | .error (r, why) =>
                  (fs, r.warn ("rmdir: failed to remove " ++ (if why == "Not a directory" then "" else "directory ") ++
                    quoteName d ++ ": " ++ why ++ "\n"), false)) (fs, r, true)
            (fs, r))
        (t.files, {})
      { t.finish r with files }

inductive BackupKind where
  | none
  | simple
  | numbered
  /-- Numbered when the file has numbered copies already, else simple. -/
  | existing
  deriving BEq

def BackupKind.ofWord (w : String) : Option BackupKind :=
  if ["none", "off"].contains w then some .none
  else if ["simple", "never"].contains w then some .simple
  else if ["numbered", "t"].contains w then some .numbered
  else if ["existing", "nil"].contains w then some .existing
  else none

/-- The name a replaced file is kept under, if kept: the suffix after its name,
or `.~N~` past the highest number it has. -/
def backupPath (fs : Files) (kind : BackupKind) (suffix path : String) : Option String :=
  let numbers := fs.entries.filterMap fun (q, _) =>
    if q.startsWith (path ++ ".~") && q.endsWith "~" then
      (((q.drop (path.length + 2)).dropEnd 1).toString).toNat?
    else none
  let next := path ++ ".~" ++ toString (numbers.foldl max 0 + 1) ++ "~"
  match kind with
  | .none => none
  | .simple => some (path ++ suffix)
  | .numbered => some next
  | .existing => some (if numbers.isEmpty then path ++ suffix else next)

/-- `cp` or `mv`: one file to a path, or files into a directory. With `-b` or
`--backup` a file about to be replaced is kept under another name. -/
def copyTool (move : Bool) (t : ToolInput) (args : List String) : ToolOutcome :=
  let tool := if move then "mv" else "cp"
  let opts : OptionSyntax :=
    { flags := ['r', 'R', 'a', 'f', 'i', 'n', 'p', 'v', 'u', 'b'], valued := ['t', 'S'], optional := [longOnly 1],
      long := [("backup", longOnly 1), ("recursive", 'r'), ("force", 'f'), ("verbose", 'v'), ("target-directory", 't'),
               ("no-clobber", 'n'), ("suffix", 'S')] }
  match opts.read args with
  | .error e => t.fail (e.message tool) 1
  | .ok o =>
    let backupWord := ((o.given.filter fun (c, _) => c == longOnly 1).getLast?).map (·.2)
    let kind : Option BackupKind := match backupWord with
      | some "" => some .existing
      | some w => BackupKind.ofWord w
      | none => some (if o.has 'b' || o.has 'S' then .existing else .none)
    match kind with
    | none =>
      let w := backupWord.getD ""
      t.fail (tool ++ ": invalid argument " ++ quoteText w ++ " for " ++ quoteText "backup type" ++ "\n" ++
        "Valid arguments are:\n  - " ++ quoteText "none" ++ ", " ++ quoteText "off" ++ "\n  - " ++
        quoteText "simple" ++ ", " ++ quoteText "never" ++ "\n  - " ++ quoteText "existing" ++ ", " ++
        quoteText "nil" ++ "\n  - " ++ quoteText "numbered" ++ ", " ++ quoteText "t" ++ "\n" ++
        "Usage: " ++ tool ++ " [OPTION]... [-T] SOURCE DEST\n" ++ tryHelp tool) 1
    | some kind =>
    let suffix := (o.last? 'S').getD "~"
    let o := o
    let recursive := move || o.has 'r' || o.has 'R' || o.has 'a'
    let (sources, target?) := match o.last? 't' with
      | some d => (o.operands, some d)
      | none => (o.operands.dropLast, o.operands.getLast?)
    match sources, target? with
    | _, none => t.fail (tool ++ ": missing file operand\n" ++ tryHelp tool) 1
    | [], some last =>
      t.fail (tool ++ ": missing destination file operand after " ++ quoteName last ++ "\n" ++ tryHelp tool) 1
    | _, some dst =>
      let dstPath := t.resolve dst
      let intoDir := match t.files.get? dstPath with
        | some .dir => true
        | _ => false
      if sources.length > 1 && !intoDir then
        t.fail (tool ++ ": target " ++ quoteName dst ++ " is not a directory\n") 1
      else
        let (files, r) := sources.foldl (fun (fs, (r : Report)) src =>
          let srcPath := t.resolve src
          let target := if intoDir then Path.join [dstPath, Path.base srcPath] else dstPath
          let shownTarget := if intoDir then Path.join [dst, Path.base srcPath] else dst
          match fs.lookup srcPath with
          | .error e => (fs, r.warn (tool ++ ": cannot stat " ++ quoteName src ++ ": " ++ reachProblem (.error e) ++ "\n"))
          | .ok entry =>
            let isDir := match entry with
              | .dir => true
              | _ => false
            if isDir && !recursive then
              (fs, r.warn (tool ++ ": -r not specified; omitting directory " ++ quoteName src ++ "\n"))
            else if target == srcPath then
              (fs, r.warn (tool ++ ": " ++ quoteName src ++ " and " ++ quoteName shownTarget ++ " are the same file\n"))
            else if isDir && target.startsWith (srcPath ++ "/") then
              (fs, r.warn (tool ++ ": cannot " ++ (if move then "move" else "copy") ++ " a directory, " ++
                quoteName src ++ ", into itself, " ++ quoteName shownTarget ++ "\n"))
            else
            let inner := (fs.entries.filterMap fun (q, _) =>
              if q.startsWith (srcPath ++ "/") then some (q.drop srcPath.length).toString else none).mergeSort
                fun a b => decide (a ≤ b)
            let told : Report :=
              if !o.has 'v' then r
              else if move then r.say ("renamed " ++ quoteName src ++ " -> " ++ quoteName shownTarget ++ "\n")
              else (inner.foldl (fun (r : Report) rel =>
                r.say (quoteName (src ++ rel) ++ " -> " ++ quoteName (shownTarget ++ rel) ++ "\n"))
                (r.say (quoteName src ++ " -> " ++ quoteName shownTarget ++ "\n")))
            let settle (fs : Files) : Files :=
              if move then (fs.carryModes srcPath target 0).remove srcPath
              else t.made (fs.carryModes srcPath target t.mask) target (fs.mode srcPath)
            match fs.lookup (Path.dir target), fs.get? target with
              | .ok .dir, some .dir =>
                if isDir then
                  let inside := fs.entries.filterMap fun (q, e) =>
                    if q.startsWith (srcPath ++ "/") then some (target ++ (q.drop srcPath.length).toString, e) else none
                  let fs := inside.foldl (fun fs (q, e) => fs.put q e) fs
                  (settle fs, told)
                else (fs, r.warn (tool ++ ": cannot overwrite directory " ++ quoteName shownTarget ++
                  " with non-directory\n"))
              | .ok .dir, some _ =>
                if isDir then
                  (fs, r.warn (tool ++ ": cannot overwrite non-directory " ++ quoteName shownTarget ++
                    " with directory " ++ quoteName src ++ "\n"))
                else if o.has 'n' then (fs, r)
                else
                  let (fs, told) := match backupPath fs kind suffix target, fs.get? target with
                    | some kept, some old =>
                      let told := if move && o.has 'v' then
                          { told with writes := told.writes.dropLast ++ [(1, "renamed " ++ quoteName src ++ " -> " ++
                            quoteName shownTarget ++ " (backup: " ++ quoteName (shownTarget ++ (kept.drop target.length).toString) ++ ")\n")] }
                        else told
                      ((fs.remove target).put kept old, told)
                    | _, _ => (fs, told)
                  let kept := fs.mode target
                  let fs := fs.put target entry
                  (if move then settle fs else fs.setMode target kept, told)
              | .ok .dir, none =>
                let inside := fs.entries.filterMap fun (q, e) =>
                  if q.startsWith (srcPath ++ "/") then some (target ++ (q.drop srcPath.length).toString, e) else none
                let fs := inside.foldl (fun fs (q, e) => fs.put q e) (fs.put target entry)
                (settle fs, told)
              | other, _ =>
                let why := match other with
                  | .ok _ => "Not a directory"
                  | e => reachProblem e
                (fs, r.warn (tool ++ ": cannot " ++ (if move then "move " ++ quoteName src ++ " to "
                  else "create " ++ (if isDir then "directory " else "regular file ")) ++ quoteName shownTarget ++
                  ": " ++ why ++ "\n")))
          (t.files, {})
        { t.finish r with files }

def modeLike (a : String) : Bool :=
  a.startsWith "-" && a.length > 1 && (a.toList.drop 1).all fun c => "rwxXstugoa,+-=01234567".toList.contains c

/-- The paths of a tree in recursive-walk order, a directory before its
contents, names in order; each with the name to show. -/
def walkTree (fs : Files) : Nat → String → String → List (String × String)
  | 0, _, _ => []
  | f + 1, path, shown =>
    (path, shown) :: match fs.list path with
      | .ok inside => inside.flatMap fun (n, _) =>
        walkTree fs f (Path.join [path, n]) (if shown.endsWith "/" then shown ++ n else shown ++ "/" ++ n)
      | .error _ => []

def chmodTool (t : ToolInput) (args : List String) : ToolOutcome :=
  let opts : OptionSyntax :=
    { flags := ['R', 'v', 'c', 'f'], long := [("recursive", 'R'), ("verbose", 'v'), ("changes", 'c'), ("silent", 'f'), ("quiet", 'f')] }
  let modeWord := args.find? modeLike
  let rest := match modeWord with
    | some m => args.erase m
    | none => args
  match opts.read rest with
  | .error e => t.fail (e.message "chmod") 1
  | .ok o =>
    let operands := match modeWord with
      | some m => m :: o.operands
      | none => o.operands
    match operands with
    | [] => t.fail (missingOperand "chmod") 1
    | [m] => t.fail ("chmod: missing operand after " ++ quoteText m ++ "\n" ++ tryHelp "chmod") 1
    | mode :: names =>
      match Mode.parse mode with
      | none => t.fail ("chmod: invalid mode: " ++ quoteText mode ++ "\n" ++ tryHelp "chmod") 1
      | some ops =>
        let change (acc : Files × Report) (pathShown : String × String) : Files × Report :=
          let (fs, r) := acc
          let (path, shown) := pathShown
          let dir := fs.get? path == some .dir
          let old := fs.mode path
          let new := Mode.adjust dir t.mask old ops
          let fs := if new == old then fs else fs.setMode path new
          let r :=
            if new != old && (o.has 'v' || o.has 'c') then
              r.say ("mode of " ++ quoteName shown ++ " changed from " ++ Mode.octal old ++ " (" ++ Mode.letters old ++
                ") to " ++ Mode.octal new ++ " (" ++ Mode.letters new ++ ")\n")
            else if o.has 'v' then
              r.say ("mode of " ++ quoteName shown ++ " retained as " ++ Mode.octal new ++ " (" ++ Mode.letters new ++ ")\n")
            else r
          let naive := Mode.adjust dir 0 old ops
          let r := if modeWord.isSome && new &&& (Mode.allBits ^^^ naive) != 0 then
              r.warn ("chmod: " ++ shownName shown ++ ": new permissions are " ++ Mode.letters new ++ ", not " ++
                Mode.letters naive ++ "\n")
            else r
          (fs, r)
        let (files, r) := names.foldl (fun (fs, (r : Report)) n =>
          let path := t.resolve n
          match fs.lookup path with
          | .ok .dir =>
            if o.has 'R' then (walkTree fs (fs.entries.length + 1) path n).foldl change (fs, r)
            else change (fs, r) (path, n)
          | .ok _ => change (fs, r) (path, n)
          | e => (fs, if o.has 'f' then { r with failed := true }
              else r.warn ("chmod: cannot access " ++ quoteName n ++ ": " ++ reachProblem e ++ "\n")))
          (t.files, {})
        { t.finish r with files }

end Shell
end JuryCaptions
