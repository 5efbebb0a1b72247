/-!
Slash-separated file paths and a file tree in memory.

A clean path has no empty, `.` or inner `..` elements; the clean form of
nothing is `.`. Every entry sits at a clean absolute path under a directory:
a directory, a file with its text and whether it runs, or a system program.
Permission bits follow the kind (`755` or `644`) unless set.
-/

namespace JuryCaptions
namespace Path

def elements (p : String) : List String := (p.splitOn "/").filter (· ≠ "")

/-- Resolves `.` and `..` elements; `rooted` drops `..` at the start. -/
def resolve (rooted : Bool) (es : List String) : List String :=
  (es.foldl (fun (acc : List String) e =>
    if e = "." then acc
    else if e = ".." then
      match acc with
      | last :: rest => if last = ".." then ".." :: acc else rest
      | [] => if rooted then [] else [".."]
    else e :: acc) []).reverse

def clean (p : String) : String :=
  let rooted := p.startsWith "/"
  let body := "/".intercalate (resolve rooted (elements p))
  if rooted then "/" ++ body else if body.isEmpty then "." else body

def join (ps : List String) : String :=
  match ps.filter (· ≠ "") with
  | [] => ""
  | qs => clean ("/".intercalate qs)

def base (p : String) : String :=
  if p.isEmpty then "."
  else match (elements p).getLast? with
    | some e => e
    | none => "/"

/-- The directory part of a path: all but the last element, cleaned. -/
def dir (p : String) : String :=
  let cs := p.toList
  let upto := (cs.reverse.dropWhile (· ≠ '/')).reverse
  clean (String.ofList upto)

/-- Whether a path names something by its own place rather than through a
search: it has a slash in it. -/
def hasSlash (p : String) : Bool := p.contains '/'

end Path

inductive Entry where
  | dir
  | file (text : String) (executable : Bool)
  /-- A program of the system, known by name. -/
  | tool (name : String)
  deriving Repr, Inhabited, BEq

/-- An entry's permission bits unless set: `755` for a directory or program,
`644` for another file. -/
def Entry.defaultMode : Entry → Nat
  | .dir | .tool _ => 0o755
  | .file _ true => 0o755
  | .file _ false => 0o644

/-- A file tree: entries by clean absolute path, in the order made, and when
each was last changed, as a count of the changes made to the tree. -/
structure Files where
  entries : List (String × Entry)
  /-- The change that last touched each path; paths never changed have none. -/
  stamps : List (String × Nat) := []
  /-- The number of changes made so far. -/
  clock : Nat := 0
  /-- The permission bits of the paths whose mode was set; the others have
  the mode their entry gives them by default. -/
  modes : List (String × Nat) := []
  deriving Inhabited

namespace Files

def tools : List String :=
  ["sh", "dash", "bash", "sleep", "echo", "cat", "true", "false", "kill", "printf", "env", "test", "[", "wc",
   "head", "tail", "basename", "dirname", "seq", "tr", "cut", "sort", "uniq", "expr", "touch", "mkdir", "rm",
   "ls", "rmdir", "cp", "mv", "tee", "grep", "egrep", "fgrep", "sed", "tac", "rev", "nl", "paste", "fold", "chmod",
   "uname", "realpath", "readlink", "printenv", "od", "xargs", "yes", "pwd", "base64", "base32", "md5sum", "sha1sum",
   "sha224sum", "sha256sum", "sha384sum", "sha512sum", "cksum", "sum", "comm", "join", "tsort", "numfmt",
   "expand", "unexpand", "factor", "stat"]

def system : Files where
  entries := [("/", .dir), ("/bin", .dir), ("/dev", .dir), ("/etc", .dir), ("/usr", .dir), ("/usr/bin", .dir), ("/tmp", .dir)] ++
    tools.map (fun t => ("/bin/" ++ t, .tool t)) ++ tools.map (fun t => ("/usr/bin/" ++ t, .tool t))
  -- the directory of temporary files may be written by all, each file removed only by its owner
  modes := [("/tmp", 0o1777)]

def get? (fs : Files) (p : String) : Option Entry :=
  (fs.entries.find? (·.1 == Path.clean p)).map (·.2)

def prefixes (p : String) : List String :=
  let es := Path.elements p
  "/" :: (List.range es.length).map fun k => "/" ++ "/".intercalate (es.take (k + 1))

/-- Looks a path up: its entry, or why there is none. -/
def lookup (fs : Files) (p : String) : Except String Entry :=
  let ps := prefixes (Path.clean p)
  let rec go : List String → Except String Entry
    | [] => .error "no such file or directory"
    | [q] => match fs.get? q with
      | some e => .ok e
      | none => .error "no such file or directory"
    | q :: more => match fs.get? q with
      | some .dir => go more
      | some _ => .error "not a directory"
      | none => .error "no such file or directory"
  go ps

/-- The change that last touched a path: 0 for one never changed. -/
def stamp (fs : Files) (p : String) : Nat :=
  ((fs.stamps.find? (·.1 == Path.clean p)).map (·.2)).getD 0

def touch (fs : Files) (ps : List String) : Files :=
  let now := fs.clock + 1
  { fs with stamps := ps.map (·, now) ++ fs.stamps.filter (!ps.contains ·.1), clock := now }

/-- Puts an entry at a path, replacing one already there; a new entry changes
its directory too and has the mode of its kind. -/
def put (fs : Files) (p : String) (e : Entry) : Files :=
  let p := Path.clean p
  if fs.entries.any (·.1 == p) then
    { fs with entries := fs.entries.map fun (q, old) => if q == p then (q, e) else (q, old) }.touch [p]
  else { fs with entries := fs.entries ++ [(p, e)], modes := fs.modes.filter (·.1 != p) }.touch [p, Path.dir p]

def mode (fs : Files) (p : String) : Nat :=
  let p := Path.clean p
  match fs.modes.find? (·.1 == p) with
  | some (_, m) => m
  | none => ((fs.get? p).map Entry.defaultMode).getD 0o644

/-- Sets the permission bits of a path; a regular file may be run when any of
its execute bits is set. -/
def setMode (fs : Files) (p : String) (m : Nat) : Files :=
  let p := Path.clean p
  let runnable := m &&& 0o111 != 0
  { fs with
    modes := (p, m) :: fs.modes.filter (·.1 != p)
    entries := fs.entries.map fun (q, e) =>
      if q == p then (q, match e with
        | .file t _ => .file t runnable
        | other => other) else (q, e) }

def mkdirAll (fs : Files) (p : String) : Files :=
  (prefixes (Path.clean p)).foldl (fun fs q => if (fs.get? q).isSome then fs else fs.put q .dir) fs

/-- Writes a regular file whose directory exists; `append` keeps what is there.
A new file is made not runnable. What is written to the null device is lost. -/
def write (fs : Files) (p : String) (text : String) (append : Bool) : Except String Files :=
  let p := Path.clean p
  if p == "/dev/null" then .ok fs else
  match fs.lookup (Path.dir p) with
  | .error e => .error e
  | .ok .dir =>
    match fs.get? p with
    | some .dir => .error "is a directory"
    | some (.file old x) => .ok (fs.put p (.file (if append then old ++ text else text) x))
    | some (.tool _) => .error "text file busy"
    | none => .ok (fs.put p (.file text false))
  | .ok _ => .error "not a directory"

/-- Writes a file named as given: a name ending with `/` names a directory, so
nothing can be written there. -/
def writeNamed (fs : Files) (p : String) (given : String) (text : String) (append : Bool) :
    Except String Files :=
  if given.endsWith "/" then
    match fs.lookup (Path.dir (Path.clean p)) with
    | .error e => .error e
    | .ok .dir =>
      match fs.get? (Path.clean p) with
      | some .dir | none => .error "is a directory"
      | some _ => .error "not a directory"
    | .ok _ => .error "not a directory"
  else fs.write p text append

/-- Makes a directory with the ones above it, as `MkdirAll`: fails, naming it,
on the first of them that is something else. -/
def makeDirs (fs : Files) (p : String) : Except String Files :=
  match (prefixes (Path.clean p)).find? fun q => (fs.get? q).any (· != .dir) with
  | some q => .error ("mkdir " ++ q ++ ": not a directory")
  | none => .ok (fs.mkdirAll p)

def create (fs : Files) (p : String) (text : String) (executable : Bool) : Files :=
  (fs.mkdirAll (Path.dir p)).put p (.file text executable)

def list (fs : Files) (p : String) : Except String (List (String × Entry)) :=
  let p := Path.clean p
  match fs.lookup p with
  | .error e => .error e
  | .ok .dir =>
    let inside := fs.entries.filter fun (q, _) => q != p && Path.dir q == p
    .ok ((inside.map fun (q, e) => (Path.base q, e)).mergeSort fun a b => decide (a.1 ≤ b.1))
  | .ok _ => .error "not a directory"

def remove (fs : Files) (p : String) : Files :=
  let p := Path.clean p
  { fs with entries := fs.entries.filter (fun (q, _) => q != p && !q.startsWith (p ++ "/")),
            modes := fs.modes.filter fun (q, _) => q != p && !q.startsWith (p ++ "/") }.touch [Path.dir p]

/-- The tree with the permission bits set on `source` and the paths under
it carried to the same paths under `target`, less the bits of `mask`. -/
def carryModes (fs : Files) (source target : String) (mask : Nat) : Files :=
  let source := Path.clean source
  let target := Path.clean target
  let carried := fs.modes.filterMap fun (p, m) =>
    if p == source then some (target, m)
    else if p.startsWith (source ++ "/") then some (target ++ (p.drop source.length).toString, m)
    else none
  carried.foldl (fun fs (p, m) => fs.setMode p (m &&& (0o7777 ^^^ mask))) fs

def mapText (f : String → String) (fs : Files) : Files :=
  { fs with
    entries := fs.entries.map fun (p, e) => (f p, match e with
      | .file t x => .file (f t) x
      | other => other)
    stamps := fs.stamps.map (fun (p, n) => (f p, n))
    modes := fs.modes.map fun (p, n) => (f p, n) }

/-- What a path that exists leads to: its clean path, its entry and the change
that last touched it. -/
structure Found where
  path : String
  entry : Entry
  stamp : Nat
  /-- Its permission bits. -/
  mode : Nat := 0o644

def find? (fs : Files) (p : String) : Option Found :=
  let p := Path.clean p
  (fs.lookup p).toOption.map fun e => { path := p, entry := e, stamp := fs.stamp p, mode := fs.mode p }

/-- The text of a regular file; the null device reads empty. -/
def read (fs : Files) (p : String) : Except String String :=
  if Path.clean p == "/dev/null" then .ok "" else
  match fs.lookup p with
  | .ok (.file t _) => .ok t
  | .ok _ => .error "is a directory"
  | .error e => .error e

/-- The regular files under a directory that are new or changed since an
earlier tree, with their paths from the directory, sorted. -/
def changedSince (fs before : Files) (root : String) : List (String × String) :=
  let root := Path.clean root
  let under := fs.entries.filterMap fun (q, e) =>
    match e with
    | .file t _ =>
      if q.startsWith (root ++ "/") && before.get? q != some e then some ((q.drop (root.length + 1)).toString, t)
      else none
    | _ => none
  under.mergeSort fun a b => decide (a.1 ≤ b.1)

end Files

end JuryCaptions
