import JuryCaptions.Viewing.Behaviour
import JuryCaptions.Input.KeyMap
import JuryCaptions.Text.Case
/-!
Input from the rendering host: keys match in any case, `q` and `e` turn the rig
and a bound key makes its juror the target and active speaker, as a click does.
A pointer leave clears the cursor targets and the active speaker. Every target
change is recorded with its input.
-/

namespace JuryCaptions
namespace Viewing

def keyInput : String := "key"

def clickInput : String := "click"

def leaveInput : String := "leave"

/-- How a command ended: with a result or failure now, or queued with the
failure it met when it ran, if any. -/
inductive Reply where
  | done (result : Except Fault Json)
  | queued (failure : Option Fault)
  deriving Inhabited

def parseCoordinates (args : List String) : Except Fault (List Float) :=
  args.mapM fun a =>
    match NumberText.readFloat a with
    | (x, none) => .ok x
    | (_, some e) => .error (.plain (e.message "ParseFloat" a))

def bracketed (args : List String) : String := "[" ++ " ".intercalate args ++ "]"

/-- The key bindings and rotation step of a session's input. -/
structure Controller where
  keys : KeyMap
  step : Float
  deriving Inhabited

namespace Controller

def setTarget (id : SpeakerId) (input : String) (w : World) : World :=
  let (cs, writes) := w.captions.setTargetAll id
  let w := { w with captions := cs }.writeOpacities writes
  let w := { w with registry := w.registry.setActive id }
  w.noteTarget id input

/-- A key press; the flag says whether the key was handled. -/
def key (c : Controller) (k : String) (w : World) : World × Bool :=
  let k := Case.lower k
  if k == rotateLeftKey then ({ w with rig := { w.rig with yaw := turn w.rig.yaw c.step } }, true)
  else if k == rotateRightKey then ({ w with rig := { w.rig with yaw := turn w.rig.yaw (-c.step) } }, true)
  else match c.keys.lookup k with
    | some id => (setTarget id keyInput w, true)
    | none => (w, false)

def click (id : SpeakerId) (w : World) : World := setTarget id clickInput w

def leave (w : World) : World :=
  let w := { w with captions := w.captions.clearTargetAll, registry := w.registry.clearActive }
  w.noteTarget SpeakerId.none leaveInput

def place (id : SpeakerId) (offset parent : Vec3) (w : World) : World :=
  { w with registry := w.registry.update id offset parent }

/-- A speaker whose scene element went away: its position is no longer known. -/
def gone (id : SpeakerId) (w : World) : World := { w with registry := w.registry.forget id }

def moveCamera (p : Vec3) (w : World) : World := { w with rig := { w.rig with camera := p } }

def requireSet (what : String) (arg : String) : Except Fault SpeakerId := do
  let id ← SpeakerId.parse arg
  if SpeakerId.isSet id then pure id else throw (.plain (what ++ " without speaker id"))

def position (args : List String) (w : World) : Except Fault World :=
  match args with
  | [] => .error (.plain "position without speaker id")
  | a :: rest => do
    let id ← SpeakerId.parse a
    let v ← (parseCoordinates rest).mapError (Fault.context ("position for " ++ id))
    match v with
    | [x, y, z] => pure (place id ⟨x, y, z⟩ Vec3.zero w)
    | [x, y, z, px, py, pz] => pure (place id ⟨x, y, z⟩ ⟨px, py, pz⟩ w)
    | _ => throw (.plain ("position for " ++ id ++ ": want 3 or 6 coordinates, got " ++ toString v.length))

def handle (c : Controller) (e : Dispatch.Event) (w : World) : World × Reply :=
  let done (r : Except Fault (World × Json)) : World × Reply :=
    match r with
    | .ok (w', j) => (w', .done (.ok j))
    | .error f => (w, .done (.error f))
  if e.command == Host.keyCommand then
    let (w, handled) := c.key (e.arg 0) w
    (w, .done (.ok (.bool handled)))
  else if e.command == Host.clickCommand then
    done (do
      let id ← requireSet "click" (e.arg 0)
      pure (click id w, .bool true))
  else if e.command == Host.leaveCommand then (leave w, .done (.ok (.bool true)))
  else if e.command == Host.positionCommand then
    match position e.args w with
    | .ok w => (w, .queued none)
    | .error f => (w, .queued (some f))
  else if e.command == Host.goneCommand then
    done (do
      let id ← requireSet "gone" (e.arg 0)
      pure (gone id w, .bool true))
  else if e.command == Host.cameraCommand then
    let fail : Fault := .plain ("camera: want 3 coordinates: " ++ bracketed e.args)
    match parseCoordinates e.args with
    | .ok [x, y, z] => (moveCamera ⟨x, y, z⟩ w, .done (.ok (.bool true)))
    | _ => (w, .done (.error fail))
  else (w, .done (.error (.plain ("unknown command: " ++ e.command))))

end Controller

end Viewing
end JuryCaptions
