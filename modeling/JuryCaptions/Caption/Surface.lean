import JuryCaptions.Jury.Juror
/-!
Caption surfaces and when they are visible.

A surface is visible when its speaker is the viewer's target, an ambient one
exactly when it is not; while either is unset it keeps its opacity. The active
target is set by keys, the cursor target by clicks and cleared on leave.
Operations return their opacity writes in order.
-/

namespace JuryCaptions

/-- The visibility rule: the opacity of a surface, or none while the speaker or
the target is unset. -/
def opacityFor (speaker target : SpeakerId) (ambient : Bool) : Option Float :=
  if !SpeakerId.isSet speaker || !SpeakerId.isSet target then none
  else if (speaker == target) != ambient then some 1.0 else some 0.0

abbrev TargetField := String

namespace TargetField

def active : TargetField := "activeTarget"

def cursor : TargetField := "cursorTarget"

def parse (s : String) : Except Fault TargetField :=
  if s == active || s == cursor then .ok s
  else .error (.plain ("unknown caption target field " ++ Quote.quoted s))

def clearable (f : TargetField) : Bool := f == cursor

end TargetField

/-- An opacity written to the element of a surface. -/
structure OpacityWrite where
  surface : String
  opacity : Float
  deriving Repr, Inhabited

structure Surface where
  id : String
  field : TargetField
  ambient : Bool
  /-- Whether the surface has an element to write to. -/
  hasElement : Bool := true
  speaker : SpeakerId := ""
  target : SpeakerId := ""
  deriving Repr, Inhabited

namespace Surface

def speakerIsActive (s : Surface) : Bool :=
  SpeakerId.isSet s.speaker && s.speaker == s.target

def apply (s : Surface) : Option OpacityWrite :=
  match opacityFor s.speaker s.target s.ambient with
  | some o => if s.hasElement then some ⟨s.id, o⟩ else none
  | none => none

def setSpeaker (s : Surface) (id : SpeakerId) : Surface × Option OpacityWrite :=
  let s' := { s with speaker := id }
  (s', s'.apply)

def setTarget (s : Surface) (id : SpeakerId) : Surface × Option OpacityWrite :=
  let s' := { s with target := id }
  (s', s'.apply)

end Surface

inductive SurfaceCall where
  | setSpeaker (id : SpeakerId)
  | setTarget (id : SpeakerId)
  /-- Returns the target to unset; the rule then makes no write, so the element
  keeps its last opacity. -/
  | clearTarget
  /-- Applies the rule to the state as it is. -/
  | apply
  deriving Repr, Inhabited

/-- Makes a call: the state after it and the write it made. -/
def Surface.call (s : Surface) : SurfaceCall → Surface × Option OpacityWrite
  | .setSpeaker id => s.setSpeaker id
  | .setTarget id => s.setTarget id
  | .clearTarget => s.setTarget SpeakerId.none
  | .apply => (s, s.apply)

/-- Every caption surface of a session, in the order they were added. -/
structure CaptionSet where
  surfaces : List Surface := []
  deriving Repr, Inhabited

namespace CaptionSet

def add (cs : CaptionSet) (s : Surface) : CaptionSet := ⟨cs.surfaces ++ [s]⟩

def get? (cs : CaptionSet) (id : String) : Option Surface :=
  cs.surfaces.find? (·.id == id)

/-- Changes the first surface with an id by `f`, which also reports a write. -/
def update (cs : CaptionSet) (id : String) (f : Surface → Surface × Option OpacityWrite) :
    Option (CaptionSet × Option OpacityWrite) :=
  match cs.surfaces.findIdx? (·.id == id) with
  | none => none
  | some i =>
    match cs.surfaces[i]? with
    | none => none
    | some s =>
      let (s', w) := f s
      some (⟨cs.surfaces.set i s'⟩, w)

/-- Sets the target of every surface, then applies the rule to each in order. -/
def setTargetAll (cs : CaptionSet) (id : SpeakerId) : CaptionSet × List OpacityWrite :=
  let surfaces := cs.surfaces.map fun s => { s with target := id }
  (⟨surfaces⟩, surfaces.filterMap Surface.apply)

/-- Clears the target of every clearable surface; no opacity is written. -/
def clearTargetAll (cs : CaptionSet) : CaptionSet :=
  ⟨cs.surfaces.map fun s => if TargetField.clearable s.field then { s with target := "" } else s⟩

end CaptionSet
end JuryCaptions
