import JuryCaptions.Config.Setting
import JuryCaptions.Focus.Sector
/-!
Reading focus sectors from a setting, leniently, as records `{juror, from, to}`:
a text splits at commas, a lone value is a list of one, a null item is zeros,
keys match in any case and missing fields stay zero. Each failure gets a line
naming its place.
-/

namespace JuryCaptions
namespace Config

open Setting

/-- The failure for a value of a type that cannot be read as `expected`. -/
def unconvertible (name expected : String) (s : Setting) : String :=
  "'" ++ name ++ "' expected type '" ++ expected ++ "', got unconvertible type '" ++ s.typeName ++ "'"

def looseText (name : String) (s : Setting) : Except String String :=
  match s with
  | .unset => .ok ""
  | .text t => .ok t
  | .flag b => .ok (if b then "1" else "0")
  | .whole n => .ok (toString n)
  | .real x => .ok (FloatText.fixed x)
  | other => .error (unconvertible name "string" other)

def looseFloat (name : String) (s : Setting) : Except String Float :=
  match s with
  | .unset => .ok 0.0
  | .real x => .ok x
  | .whole n => .ok (Float.ofInt n)
  | .flag b => .ok (if b then 1.0 else 0.0)
  | .text t =>
    match NumberText.readFloat (if t.isEmpty then "0" else t) with
    | (x, none) => .ok x
    | (_, some e) =>
      .error ("'" ++ name ++ "' cannot parse value as 'float64': strconv.ParseFloat: " ++ e.describe)
  | other => .error (unconvertible name "float64" other)

def fieldOf (members : List (String × Setting)) (field : String) : Setting :=
  match members.find? (·.1 == field) with
  | some (_, v) => v
  | none =>
    match members.find? (fun m => Case.lower m.1 == field) with
    | some (_, v) => v
    | none => .unset

def failures {α : Type} (rs : List (Except String α)) : List String :=
  rs.filterMap fun r => match r with
    | .error e => some e
    | .ok _ => none

def sectorOf (name : String) (s : Setting) : Except (List String) Focus.SectorSpec :=
  let record (members : List (String × Setting)) : Except (List String) Focus.SectorSpec :=
    let juror := looseText (name ++ ".juror") (fieldOf members "juror")
    let start := looseFloat (name ++ ".from") (fieldOf members "from")
    let stop := looseFloat (name ++ ".to") (fieldOf members "to")
    match juror, start, stop with
    | .ok j, .ok a, .ok b => .ok { juror := j, start := a, stop := b }
    | _, _, _ => .error (failures [juror.map (fun _ => ()), start.map (fun _ => ()), stop.map (fun _ => ())])
  match s with
  | .unset => .ok {}
  | .table ms => record ms
  | .labels ms => record (ms.map fun (k, v) => (k, .text v))
  | other => .error ["'" ++ name ++ "' expected a map or struct, got \"" ++ other.kindName ++ "\""]

def sectorItems (xs : List Setting) : Except (List String) (List Focus.SectorSpec) :=
  let rs := xs.zipIdx.map fun (x, i) => sectorOf ("[" ++ toString i ++ "]") x
  let errs := rs.flatMap fun r => match r with
    | .error es => es
    | .ok _ => []
  if errs.isEmpty then .ok (rs.filterMap fun r => match r with
    | .ok v => some v
    | .error _ => none)
  else .error errs

/-- Reads the sectors setting; `none` is no list at all. -/
def sectorsOf (s : Setting) : Except (List String) (Option (List Focus.SectorSpec)) :=
  match s with
  | .unset => .ok none
  | .items xs => (sectorItems xs).map some
  | .words ws => (sectorItems (ws.map Setting.text)).map some
  | .text t =>
    if t.isEmpty then .ok (some [])
    else (sectorItems ((t.splitOn ",").map Setting.text)).map some
  | .table [] | .labels [] => .ok (some [])
  | other => (sectorItems [other]).map some

def sectorsFailure (errs : List String) : String :=
  "decoding failed due to the following error(s):\n\n" ++ "\n".intercalate errs

end Config
end JuryCaptions
