import JuryCaptions.Json.Read
import JuryCaptions.Json.Decode
import JuryCaptions.Number.Whole
import JuryCaptions.Time.Text
import JuryCaptions.Text.Blank
import JuryCaptions.Text.Case
/-!
Loosely typed configuration values read as typed ones. Each reading falls back
to its type's zero: doubles read as whole numbers cut toward zero, texts as
numbers with a base prefix, durations with units, or tables of JSON objects.
-/

namespace JuryCaptions
namespace Config

inductive Setting where
  | unset
  | flag (b : Bool)
  | whole (n : Int)
  | real (x : Float)
  | text (s : String)
  | items (xs : List Setting)
  | words (ws : List String)
  | table (members : List (String × Setting))
  | labels (members : List (String × String))
  deriving Repr, Inhabited

mutual

/-- The setting a normalized document stands for, with table keys in lower case. -/
def Setting.ofJson : Json → Setting
  | .null => .unset
  | .bool b => .flag b
  | .num lit => .real (NumberText.readFloat lit).1
  | .str s => .text s
  | .arr xs => .items (Setting.ofJsonItems xs)
  | .obj ms => .table (Setting.ofJsonMembers ms)

def Setting.ofJsonItems : List Json → List Setting
  | [] => []
  | x :: xs => Setting.ofJson x :: Setting.ofJsonItems xs

def Setting.ofJsonMembers : List (String × Json) → List (String × Setting)
  | [] => []
  | (k, v) :: ms => (Case.lower k, Setting.ofJson v) :: Setting.ofJsonMembers ms

end

namespace Setting

def found? : Setting → Option Setting
  | .unset => none
  | s => some s

def member? (s : Setting) (key : String) : Option Setting :=
  match s with
  | .table ms => (ms.reverse.find? (·.1 == key)).map (·.2)
  | .labels ms => (ms.reverse.find? (·.1 == key)).map (fun m => .text m.2)
  | _ => none

def isTable : Setting → Bool
  | .table _ | .labels _ => true
  | _ => false

/-- The name of a setting's type, as reports of values of the wrong type give it. -/
def typeName : Setting → String
  | .unset => "<nil>"
  | .flag _ => "bool"
  | .whole _ => "int"
  | .real _ => "float64"
  | .text _ => "string"
  | .items _ => "[]interface \x7b\x7d"
  | .words _ => "[]string"
  | .table _ => "map[string]interface \x7b\x7d"
  | .labels _ => "map[string]string"

/-- The kind of a setting's type, as reports of values of the wrong kind give it. -/
def kindName : Setting → String
  | .unset => "invalid"
  | .flag _ => "bool"
  | .whole _ => "int"
  | .real _ => "float64"
  | .text _ => "string"
  | .items _ | .words _ => "slice"
  | .table _ | .labels _ => "map"

def text? : Setting → Option String
  | .unset => some ""
  | .flag b => some (if b then "true" else "false")
  | .whole n => some (toString n)
  | .real x => some (FloatText.fixed x)
  | .text s => some s
  | _ => none

def asText (s : Setting) : String := s.text?.getD ""

/-- Drops the decimal part of a plain decimal text with a point: it reads as its
part before the point, zero with no digits. Any other text stays. -/
def dropDecimals (s : String) : String :=
  let cs := s.toList
  if !cs.contains '.' then s
  else
    let (sign, body) := match cs with
      | c :: rest => if c == '+' || c == '-' then ([c], rest) else ([], cs)
      | [] => ([], [])
    let whole := body.takeWhile Char.isDigit
    match body.drop whole.length with
    | '.' :: frac =>
      if frac.all Char.isDigit then String.ofList (sign ++ (if whole.isEmpty then ['0'] else whole))
      else s
    | _ => s

def asInt : Setting → Int
  | .flag b => if b then 1 else 0
  | .whole n => n
  | .real x => Duration.truncFloat x
  | .text s =>
    if s.isEmpty then 0
    else match NumberText.readIntPrefixed (dropDecimals s) with
      | .ok n => n
      | .error _ => 0
  | _ => 0

def asBool : Setting → Bool
  | .flag b => b
  | .whole n => n != 0
  | .real x => x != 0.0
  | .text s => (NumberText.readBool s).getD false
  | _ => false

def asFloat : Setting → Float
  | .flag b => if b then 1.0 else 0.0
  | .whole n => Float.ofInt n
  | .real x => x
  | .text s =>
    if s.isEmpty then 0.0
    else match NumberText.readFloat s with
      | (x, none) => x
      | _ => 0.0
  | _ => 0.0

def unitLetters : List Char := ['n', 's', 'u', 'µ', 'm', 'h']

def asDuration : Setting → Duration
  | .whole n => n
  | .real x => Duration.truncFloat x
  | .text s =>
    let written := if s.toList.any (unitLetters.contains ·) then s else s ++ "ns"
    (DurationText.read written).getD 0
  | _ => 0

def asWords : Setting → Option (List String)
  | .items xs => xs.mapM text?
  | .words ws => some ws
  | .text s => some (Blank.fields s)
  | .unset | .table _ | .labels _ => none
  | s => s.text?.map ([·])

/-- The members of a JSON object text read as texts; other values read as
empty, and a text that is not an object gives no members. -/
def labelsOfJson (s : String) : List (String × String) :=
  match Json.parse s with
  | .ok (.obj ms) =>
    (Json.lastOfEach ms).map fun (k, v) => (k, match v with
      | .str t => t
      | _ => "")
  | _ => []

def asLabels : Setting → List (String × String)
  | .labels ms => ms
  | .table ms => ms.map fun (k, v) => (k, v.asText)
  | .text s => labelsOfJson s
  | _ => []

end Setting

end Config
end JuryCaptions
