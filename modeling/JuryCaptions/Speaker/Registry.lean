import JuryCaptions.Geometry.Vector
import JuryCaptions.Jury.Juror
/-!
Known speakers, where they are and which one is active.

Speakers become known when first seen and stay known. A speaker's position is
resolved once reported and unresolved again when its scene element goes away.
At most one speaker is active.
-/

namespace JuryCaptions

structure SpeakerEntry where
  id : SpeakerId
  position : Vec3 := Vec3.zero
  resolved : Bool := false
  deriving Repr, Inhabited

/-- A speaker as reported: id, position and whether it is active. -/
structure SpeakerView where
  id : SpeakerId
  position : Vec3
  active : Bool
  deriving Repr, Inhabited

/-- The known speakers in the order first seen, and the active one. -/
structure Registry where
  entries : List SpeakerEntry := []
  active : SpeakerId := ""
  deriving Repr, Inhabited

namespace Registry

def ensure (r : Registry) (id : SpeakerId) : Registry :=
  if r.entries.any (·.id == id) then r else { r with entries := r.entries ++ [{ id }] }

def ofIds (ids : List SpeakerId) : Registry := ids.foldl ensure {}

def modify (r : Registry) (id : SpeakerId) (f : SpeakerEntry → SpeakerEntry) : Registry :=
  { r with entries := r.entries.map fun e => if e.id == id then f e else e }

/-- Sets a speaker's world position; the empty id is ignored. -/
def setPosition (r : Registry) (id : SpeakerId) (world : Vec3) : Registry :=
  if !SpeakerId.isSet id then r
  else (r.ensure id).modify id fun e => { e with position := world, resolved := true }

/-- Sets a speaker's world position from its local offset and its parent's position. -/
def update (r : Registry) (id : SpeakerId) (offset parent : Vec3) : Registry :=
  r.setPosition id (offset.add parent)

def forget (r : Registry) (id : SpeakerId) : Registry :=
  r.modify id fun e => { e with resolved := false }

/-- Makes a speaker the only active one; the empty id leaves none active. -/
def setActive (r : Registry) (id : SpeakerId) : Registry :=
  let r := if SpeakerId.isSet id then r.ensure id else r
  { r with active := id }

def clearActive (r : Registry) : Registry := { r with active := "" }

def resolve (r : Registry) (id : SpeakerId) : Option Vec3 :=
  match r.entries.find? (·.id == id) with
  | some e => if e.resolved then some e.position else none
  | none => none

def get? (r : Registry) (id : SpeakerId) : Option SpeakerView :=
  (r.entries.find? (·.id == id)).map fun e => ⟨e.id, e.position, r.active == e.id⟩

/-- Every known speaker, in the order first seen. -/
def all (r : Registry) : List SpeakerView := r.entries.map fun e => ⟨e.id, e.position, r.active == e.id⟩

def size (r : Registry) : Nat := r.entries.length

end Registry
end JuryCaptions
