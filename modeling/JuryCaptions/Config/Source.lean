import JuryCaptions.Config.Setting
/-!
Where configuration values come from. A dotted key such as `server.port`
matches in any case. The environment (empty is unset), the file and the
defaults are asked in turn; a null in the file is absent, and a plain value at
a proper prefix of the key shadows it.
-/

namespace JuryCaptions
namespace Config

def envName (key : String) : String :=
  String.ofList ((Case.upper ("captioner_" ++ key)).toList.map fun c => if c = '.' then '_' else c)

/-- The sources of configuration other than the defaults. -/
structure Source where
  /-- Environment variables, later ones winning. -/
  env : List (String × String) := []
  /-- The configuration file's table, if one was read. -/
  file : Setting := .unset
  deriving Inhabited

def Source.envValue? (src : Source) (name : String) : Option String :=
  match src.env.reverse.find? (·.1 == name) with
  | some (_, v) => if v.isEmpty then none else some v
  | none => none

/-- The position a key part names in a list: an optionally signed decimal number. -/
def positionOf (part : String) : Option Nat :=
  match NumberText.readWhole part with
  | .ok n => if 0 ≤ n then some n.toNat else none
  | .error _ => none

/-- Looks a path up in the file: the longest prefix of the path that names a
member (or a list position) is taken first, and the rest is looked up below it. -/
def searchFile : Nat → Setting → List String → Option Setting
  | 0, _, _ => none
  | _, source, [] => source.found?
  | fuel + 1, source, path =>
    ((List.range path.length).reverse.map (· + 1)).findSome? fun i =>
      let key := Case.lower (".".intercalate (path.take i))
      let next? := match source with
        | .items xs => (positionOf key).bind fun k => xs[k]?
        | .table _ => source.member? key
        | _ => none
      match next? with
      | none => none
      | some next =>
        if i = path.length then next.found?
        else match next with
          | .table _ | .items _ => searchFile fuel next (path.drop i)
          | _ => none

def searchTables : Setting → List String → Option Setting
  | source, [] => source.found?
  | source, [k] => (source.member? k).bind Setting.found?
  | source, k :: rest =>
    match source.member? k with
    | some next => if next.isTable then searchTables next rest else none
    | none => none

/-- Whether a table holds a plain value at a proper prefix of a path, before
any prefix it lacks. -/
def shadowedIn (source : Setting) (path : List String) : Bool :=
  go 1
where
  /-- Checks the prefixes from length `i` on. -/
  go (i : Nat) : Bool :=
    if _h : i < path.length then
      match searchTables source (path.take i) with
      | none => false
      | some v => if v.isTable then go (i + 1) else true
    else false
  termination_by path.length - i

def Source.find (src : Source) (defaults : Setting) (key : String) : Setting :=
  let lkey := Case.lower key
  let path := lkey.splitOn "."
  let nested := path.length > 1
  let prefixes := (List.range (path.length - 1)).map fun i => path.take (i + 1)
  match src.envValue? (envName lkey) with
  | some v => .text v
  | none =>
    if nested && prefixes.any (fun p => (src.envValue? (envName (".".intercalate p))).isSome) then .unset
    else match searchFile (path.length + 1) src.file path with
      | some v => v
      | none =>
        if nested && shadowedIn src.file path then .unset
        else (searchTables defaults path).getD .unset

end Config
end JuryCaptions
