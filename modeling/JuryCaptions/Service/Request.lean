import JuryCaptions.Json.Decode
import JuryCaptions.Json.Write
import JuryCaptions.Fault
/-!
Requests and answers of the JSON service.

A request's `op` names the operation. A missing or null member takes its zero;
one of the wrong kind makes the answer a `bad_input` naming it. Doubles may be
the words `NaN`, `Infinity`, `+Infinity`, `-Infinity`, also in answers; whole
numbers fit in 64 bits.
-/

namespace JuryCaptions
namespace Service

/-- Handling a request: a value, or the finished answer of a failure. -/
abbrev Handled := Except Json

def badInput (message : String) : Json :=
  .obj [("error", .str "bad_input"), ("message", .str message)]

/-- The answer to a step of a kind the bench does not know. -/
def unknown (kind name : String) : Json := badInput ("unknown " ++ kind ++ " " ++ Quote.quoted name)

def faultJson (f : Fault) : Json :=
  .obj [("error", .str f.kind.name), ("message", .str f.message)]

def fieldError (key what : String) : Json :=
  badInput ("field " ++ Quote.quoted key ++ " must be " ++ what)

def floatJson (x : Float) : Json :=
  if x.isNaN then .str "NaN"
  else if x.isInf then .str (if x > 0 then "Infinity" else "-Infinity")
  else .float x

def vecJson (xs : List Float) : Json := .arr (xs.map floatJson)

def floatOf? : Json → Option Float
  | .num lit => some (NumberText.readFloat lit).1
  | .str "NaN" => some (0.0 / 0.0)
  | .str "Infinity" => some (1.0 / 0.0)
  | .str "+Infinity" => some (1.0 / 0.0)
  | .str "-Infinity" => some (-(1.0 / 0.0))
  | _ => none

/-- The whole number a document stands for, if it is one within 64 bits. -/
def intOf? : Json → Option Int
  | .num lit =>
    match NumberText.readInt lit with
    | some n => if -(9223372036854775808 : Int) ≤ n ∧ n < 9223372036854775808 then some n else none
    | none => none
  | _ => none

namespace Req

def str (r : Json) (key : String) : Handled String :=
  match r.field? key with
  | none => .ok ""
  | some (.str s) => .ok s
  | some _ => .error (fieldError key "a string")

def strD (r : Json) (key dflt : String) : Handled String :=
  if r.has key then str r key else .ok dflt

def bool (r : Json) (key : String) : Handled Bool :=
  match r.field? key with
  | none => .ok false
  | some (.bool b) => .ok b
  | some _ => .error (fieldError key "a boolean")

def int (r : Json) (key : String) : Handled Int :=
  match r.field? key with
  | none => .ok 0
  | some (.num lit) =>
    match NumberText.readInt lit with
    | some n => if -(9223372036854775808 : Int) ≤ n ∧ n < 9223372036854775808 then .ok n
      else .error (fieldError key "an integer in int64 range")
    | none => .error (fieldError key "an integer")
  | some _ => .error (fieldError key "an integer")

def intD (r : Json) (key : String) (dflt : Int) : Handled Int :=
  if r.has key then int r key else .ok dflt

def float (r : Json) (key : String) : Handled Float :=
  match r.field? key with
  | none => .ok 0.0
  | some j =>
    match floatOf? j with
    | some x => .ok x
    | none => .error (fieldError key "a number")

def floatD (r : Json) (key : String) (dflt : Float) : Handled Float :=
  if r.has key then float r key else .ok dflt

def list (r : Json) (key : String) : Handled (List Json) :=
  match r.field? key with
  | none => .ok []
  | some (.arr xs) => .ok xs
  | some _ => .error (fieldError key "a list")

def obj (r : Json) (key : String) : Handled Json :=
  match r.field? key with
  | none => .ok (.obj [])
  | some (.obj ms) => .ok (.obj ms)
  | some _ => .error (fieldError key "an object")

def strs (r : Json) (key : String) : Handled (List String) := do
  let xs ← list r key
  xs.mapM fun
    | .str s => .ok s
    | _ => .error (fieldError key "a list of strings")

def ints (r : Json) (key : String) : Handled (List Int) := do
  let xs ← list r key
  xs.mapM fun j =>
    match intOf? j with
    | some n => .ok n
    | none => .error (fieldError key "a list of integers")

def floats (r : Json) (key : String) : Handled (List Float) := do
  let xs ← list r key
  xs.mapM fun j =>
    match floatOf? j with
    | some x => .ok x
    | none => .error (fieldError key "a list of numbers")

/-- A list of exactly `n` doubles, zeros when missing. -/
def floatsN (r : Json) (key : String) (n : Nat) : Handled (List Float) :=
  match r.field? key with
  | none => .ok (List.replicate n 0.0)
  | some (.arr xs) =>
    match xs.mapM floatOf? with
    | some ys => if ys.length = n then .ok ys
      else .error (fieldError key ("a list of " ++ toString n ++ " numbers"))
    | none => .error (fieldError key ("a list of " ++ toString n ++ " numbers"))
  | some _ => .error (fieldError key ("a list of " ++ toString n ++ " numbers"))

/-- A table of texts by key, given as an object; a later duplicate key wins. -/
def table (obj : Json) (key : String) : Handled (List (String × String)) :=
  match obj with
  | .obj ms => (Json.lastOfEach ms).mapM fun (k, v) => match v with
    | .str s => pure (k, s)
    | _ => .error (fieldError key "an object of strings")
  | _ => pure []

end Req

def answer (members : List (String × Json)) : Json := .obj members

end Service
end JuryCaptions
