import JuryCaptions.Number.Format
/-!
JSON documents.

A number keeps the text it was written with, so a document read from text can
be written back unchanged and a reader of a typed value can quote the number it
refused. Objects are lists of members in the order written; a key may repeat.
-/

namespace JuryCaptions

inductive Json where
  | null
  | bool (b : Bool)
  | num (literal : String)
  | str (s : String)
  | arr (items : List Json)
  | obj (members : List (String × Json))
  deriving Repr, Inhabited, BEq

namespace Json

def int (n : Int) : Json := .num (toString n)

def nat (n : Nat) : Json := .num (toString n)

def float (x : Float) : Json := .num (FloatText.document x)

def get? (j : Json) (key : String) : Option Json :=
  match j with
  | .obj ms => (ms.reverse.find? (·.1 == key)).map (·.2)
  | _ => none

def field? (j : Json) (key : String) : Option Json :=
  match j.get? key with
  | some .null => none
  | v => v

def has (j : Json) (key : String) : Bool := (j.field? key).isSome

def push (j : Json) (key : String) (v : Json) : Json :=
  match j with
  | .obj ms => .obj (ms ++ [(key, v)])
  | other => other

def optField (key : String) : Option Json → List (String × Json)
  | some v => [(key, v)]
  | none => []

def strs (xs : List String) : Json := .arr (xs.map .str)

def mapText (f : String → String) : Json → Json
  | .str s => .str (f s)
  | .arr xs => .arr (xs.attach.map fun ⟨x, _⟩ => mapText f x)
  | .obj ms => .obj (ms.attach.map fun ⟨m, h⟩ =>
      have : sizeOf m.2 < sizeOf ms := by
        have h1 := List.sizeOf_lt_of_mem h
        cases m
        simp only [Prod.mk.sizeOf_spec] at h1 ⊢
        omega
      (f m.1, mapText f m.2))
  | j => j

end Json
end JuryCaptions
