import JuryCaptions.Geometry.Trig
/-!
Vectors and quaternions of scene space, in doubles, every operation fixing the
order of its floating-point steps.
-/

namespace JuryCaptions

/-- A position or direction in scene space, in metres, Y up. -/
structure Vec3 where
  x : Float
  y : Float
  z : Float
  deriving Repr, Inhabited

namespace Vec3

def zero : Vec3 := ⟨0.0, 0.0, 0.0⟩

def toList (v : Vec3) : List Float := [v.x, v.y, v.z]

def ofList (xs : List Float) : Vec3 := ⟨xs.getD 0 0.0, xs.getD 1 0.0, xs.getD 2 0.0⟩

def sub (a b : Vec3) : Vec3 := ⟨a.x - b.x, a.y - b.y, a.z - b.z⟩

def add (a b : Vec3) : Vec3 := ⟨a.x + b.x, a.y + b.y, a.z + b.z⟩

def scale (a : Vec3) (k : Float) : Vec3 := ⟨a.x * k, a.y * k, a.z * k⟩

def dot (a b : Vec3) : Float := a.x * b.x + a.y * b.y + a.z * b.z

def cross (a b : Vec3) : Vec3 :=
  ⟨a.y * b.z - a.z * b.y, a.z * b.x - a.x * b.z, a.x * b.y - a.y * b.x⟩

def length (a : Vec3) : Float := (a.x * a.x + a.y * a.y + a.z * a.z).sqrt

def normalize (a : Vec3) : Vec3 := a.scale (1.0 / a.length)

def same (a b : Vec3) : Bool := a.x == b.x && a.y == b.y && a.z == b.z

end Vec3

/-- An orientation: scalar part `w` and vector part `v`. -/
structure Quat where
  w : Float
  v : Vec3
  deriving Repr, Inhabited

namespace Quat

def identity : Quat := ⟨1.0, Vec3.zero⟩

def toList (q : Quat) : List Float := [q.v.x, q.v.y, q.v.z, q.w]

/-- The quaternion of components given in the order `x, y, z, w`. -/
def ofList (xs : List Float) : Quat := ⟨xs.getD 3 0.0, Vec3.ofList xs⟩

def mul (p q : Quat) : Quat :=
  ⟨p.w * q.w - p.v.dot q.v, ((p.v.cross q.v).add (q.v.scale p.w)).add (p.v.scale q.w)⟩

/-- The length, `√(((w·w + x·x) + y·y) + z·z)`. -/
def length (q : Quat) : Float :=
  (q.w * q.w + q.v.x * q.v.x + q.v.y * q.v.y + q.v.z * q.v.z).sqrt

/-- Whether two doubles are equal up to a relative error of `1e-10`. -/
def nearlyEqual (a b : Float) : Bool :=
  if a == b then true
  else
    let diff := (a - b).abs
    if a * b == 0 || diff < 1.1754943508222875e-38 then diff < 1e-10 * 1e-10
    else diff / (a.abs + b.abs) < 1e-10

/-- The quaternion scaled to length one: unchanged when its length is already
nearly one, the identity when its length is zero. -/
def normalize (q : Quat) : Quat :=
  let len := q.length
  if nearlyEqual 1.0 len then q
  else if len == 0 then identity
  else
    let len := if len.isInf && len > 0 then 1.7976931348623157e308 else len
    ⟨q.w * 1.0 / len, q.v.scale (1.0 / len)⟩

def rotation (angle : Float) (axis : Vec3) : Quat :=
  ⟨Trig.cos (angle / 2.0), axis.scale (Trig.sin (angle / 2.0))⟩

/-- The rotation whose matrix has the given columns, read off the largest of
the trace and the diagonal entries. -/
def ofColumns (c0 c1 c2 : Vec3) : Quat :=
  let tr := c0.x + c1.y + c2.z
  if tr > 0 then
    let s := 0.5 / (tr + 1.0).sqrt
    ⟨0.25 / s, ⟨(c1.z - c2.y) * s, (c2.x - c0.z) * s, (c0.y - c1.x) * s⟩⟩
  else if c0.x > c1.y && c0.x > c2.z then
    let s := 2.0 * (1.0 + c0.x - c1.y - c2.z).sqrt
    ⟨(c1.z - c2.y) / s, ⟨0.25 * s, (c1.x + c0.y) / s, (c2.x + c0.z) / s⟩⟩
  else if c1.y > c2.z then
    let s := 2.0 * (1.0 + c1.y - c0.x - c2.z).sqrt
    ⟨(c2.x - c0.z) / s, ⟨(c1.x + c0.y) / s, 0.25 * s, (c2.y + c1.z) / s⟩⟩
  else
    let s := 2.0 * (1.0 + c2.z - c0.x - c1.y).sqrt
    ⟨(c0.y - c1.x) / s, ⟨(c2.x + c0.z) / s, (c2.y + c1.z) / s, 0.25 * s⟩⟩

def same (a b : Quat) : Bool := a.w == b.w && a.v.same b.v

end Quat
end JuryCaptions
