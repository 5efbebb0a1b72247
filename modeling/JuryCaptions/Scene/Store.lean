import JuryCaptions.Geometry.Vector
/-!
The scene attribute store: the last value of every attribute of every entity.
A write of a new value becomes a patch for the host; values compare as the
host's do, equal kinds and equal doubles, so `0` and `-0` agree and a
not-a-number never does.
-/

namespace JuryCaptions

inductive SceneValue where
  | float (x : Float)
  | int (n : Int)
  | text (s : String)
  | flag (b : Bool)
  | vec (v : Vec3)
  | quat (q : Quat)
  | array3 (xs : List Float)
  | array4 (xs : List Float)
  deriving Repr, Inhabited

namespace SceneValue

def sameFloats : List Float → List Float → Bool
  | [], [] => true
  | a :: as, b :: bs => a == b && sameFloats as bs
  | _, _ => false

def same : SceneValue → SceneValue → Bool
  | .float a, .float b => a == b
  | .int a, .int b => a == b
  | .text a, .text b => a == b
  | .flag a, .flag b => a == b
  | .vec a, .vec b => a.same b
  | .quat a, .quat b => a.same b
  | .array3 a, .array3 b => sameFloats a b
  | .array4 a, .array4 b => sameFloats a b
  | _, _ => false

/-- The value as a patch carries it: vectors and quaternions as arrays. -/
def encode : SceneValue → SceneValue
  | .vec v => .array3 v.toList
  | .quat q => .array4 q.toList
  | v => v

end SceneValue

namespace Attr

def opacity : String := "opacity"

def color : String := "color"

def rotation : String := "rotation"

def position : String := "position"

def yaw : String := "yaw"

end Attr

structure Patch where
  entity : String
  attr : String
  value : SceneValue
  deriving Repr, Inhabited

/-- The last value of every attribute, in the order the attributes were first written. -/
structure SceneStore where
  values : List ((String × String) × SceneValue) := []
  deriving Repr, Inhabited

namespace SceneStore

def get? (s : SceneStore) (entity attr : String) : Option SceneValue :=
  (s.values.find? (·.1 == (entity, attr))).map (·.2)

/-- Writes an attribute; a changed value gives the patch to send. -/
def set (s : SceneStore) (entity attr : String) (v : SceneValue) : SceneStore × Option Patch :=
  match s.get? entity attr with
  | some prev => if prev.same v then (s, none)
    else (⟨s.values.map fun (k, old) => if k == (entity, attr) then (k, v) else (k, old)⟩,
      some ⟨entity, attr, v.encode⟩)
  | none => (⟨s.values ++ [((entity, attr), v)]⟩, some ⟨entity, attr, v.encode⟩)

def snapshot (s : SceneStore) : List Patch :=
  let ps := s.values.map fun ((e, a), v) => (⟨e, a, v.encode⟩ : Patch)
  ps.mergeSort fun p q => p.entity < q.entity || (p.entity == q.entity && decide (p.attr ≤ q.attr))

end SceneStore
end JuryCaptions
