import JuryCaptions.Viewing.World
import JuryCaptions.Indicator.Marker
import JuryCaptions.Caption.Basic
import JuryCaptions.Time.Duration
/-!
Entities of a viewing session and the behaviours that drive them: each set up
once when the entity joins, run every frame, and told of data between frames.
Set-up stops at the first failing behaviour; frames run entities in join order.
-/

namespace JuryCaptions
namespace Viewing

/-- What a marker points at: the speaker of a caption surface, or a fixed
speaker that is active when the registry says so, or never without one. -/
inductive MarkerSource where
  | surface (id : String)
  | follow (id : SpeakerId) (withRegistry : Bool)
  deriving Repr, Inhabited

def MarkerSource.view (s : MarkerSource) (w : World) : SpeakerId × Bool :=
  match s with
  | .surface id =>
    match w.captions.get? id with
    | some sf => (sf.speaker, sf.speakerIsActive)
    | none => ("", false)
  | .follow id withRegistry => (id, withRegistry && w.registry.active == id)

inductive Delivery where
  /-- A caption now spoken. -/
  | caption (c : Caption)
  /-- A change of speaker, of target, or both. -/
  | change (speaker target : Option SpeakerId)
  /-- Any other text. -/
  | note (text : String)
  deriving Repr, Inhabited

def Delivery.describe : Delivery → String
  | .caption c => "\x7b" ++ c.text ++ " " ++ toString c.messageId ++ " " ++ toString c.chunkId ++ " " ++
      FloatText.general c.delay ++ " " ++ c.speaker ++ "\x7d"
  | .change s t => "\x7b" ++ s.getD "<nil>" ++ " " ++ t.getD "<nil>" ++ "\x7d"
  | .note text => text

/-- A behaviour of an entity, with the state it keeps. -/
inductive Behaviour where
  /-- Shows the caption surface with this id; without one it cannot be set up. -/
  | caption (surface : Option String)
  /-- Turns a marker toward a speaker; without its marker state it cannot be set up. -/
  | indicator (marker : String) (source : MarkerSource) (updater : Option Indicator.Updater)
  /-- Keeps an element, if any, under the viewer's head at a height; may move the anchor too. -/
  | stayBelow (element : Option String) (height : Float) (moveAnchor : Bool)
  /-- Copies the rig's yaw onto an element, if any. -/
  | turnWithRig (element : Option String)
  /-- Records the calls it hears; fails to be set up with a message, if given. -/
  | probe (name : String) (failure : Option String)
  deriving Repr, Inhabited

namespace Behaviour

def init (b : Behaviour) (w : World) : World × Option Fault :=
  match b with
  | .caption none => (w, some (.plain "caption behaviour without surface"))
  | .caption (some id) =>
    match w.captions.get? id with
    | some sf => (w.writeOpacities sf.apply.toList, none)
    | none => (w, some (.plain "caption behaviour without surface"))
  | .indicator _ _ none => (w, some (.plain "indicator behaviour without updater"))
  | .indicator _ _ (some _) => (w, none)
  | .stayBelow _ _ _ => (w, none)
  | .turnWithRig none => (w, none)
  | .turnWithRig (some el) => (w.write el Attr.yaw (.float w.rig.yaw), none)
  | .probe name failure =>
    let w := { w with calls := w.calls ++ [name ++ ".init"] }
    (w, failure.map Fault.plain)

def tick (b : Behaviour) (dt : Duration) (w : World) : Behaviour × World :=
  match b with
  | .caption none => (b, w)
  | .caption (some id) =>
    match w.captions.get? id with
    | some sf => (b, w.writeOpacities sf.apply.toList)
    | none => (b, w)
  | .indicator _ _ none => (b, w)
  | .indicator marker source (some u) =>
    let (speaker, active) := source.view w
    let t := u.tick speaker active w.rig.anchor w.registry.resolve
    let w := t.writes.foldl (fun w m => match m with
      | .rotation q => w.write marker Attr.rotation (.quat q)
      | .color c => w.write marker Attr.color (.text c)) w
    (.indicator marker source (some t.updater), w.logAll t.logs)
  | .stayBelow element height moveAnchor =>
    let p : Vec3 := { w.rig.camera with y := height }
    let w := match element with
      | some el => w.write el Attr.position (.vec p)
      | none => w
    (b, if moveAnchor then { w with rig := { w.rig with anchor := p } } else w)
  | .turnWithRig none => (b, w)
  | .turnWithRig (some el) => (b, w.write el Attr.yaw (.float w.rig.yaw))
  | .probe name _ =>
    (b, { w with calls := w.calls ++ [name ++ ".tick(" ++ toString (Duration.toMillis dt) ++ ")"] })

def hear (b : Behaviour) (d : Delivery) (w : World) : World :=
  match b, d with
  | .caption (some id), .caption c => w.onSurface id fun sf => sf.setSpeaker c.speaker
  | .caption (some id), .change speaker target =>
    let w := match speaker with
      | some s => w.onSurface id fun sf => sf.setSpeaker s
      | none => w
    match target with
    | some t => w.onSurface id fun sf => sf.setTarget t
    | none => w
  | .probe name _, d => { w with calls := w.calls ++ [name ++ ".update(" ++ d.describe ++ ")"] }
  | _, _ => w

end Behaviour

structure Entity where
  id : String
  behaviours : List Behaviour
  deriving Repr, Inhabited

namespace Entity

/-- Sets every behaviour up in order, stopping at the first failure, which
names the entity. -/
def init (e : Entity) (w : World) : World × Option Fault :=
  go e.behaviours w
where
  /-- Sets up the remaining behaviours. -/
  go : List Behaviour → World → World × Option Fault
  | [], w => (w, none)
  | b :: bs, w =>
    match b.init w with
    | (w, some f) => (w, some (f.context ("init " ++ e.id)))
    | (w, none) => go bs w

def tick (e : Entity) (dt : Duration) (w : World) : Entity × World :=
  let (bs, w) := e.behaviours.foldl (fun (acc, w) b => let (b', w') := b.tick dt w; (acc ++ [b'], w'))
    ([], w)
  ({ e with behaviours := bs }, w)

def hear (e : Entity) (d : Delivery) (w : World) : World :=
  e.behaviours.foldl (fun w b => b.hear d w) w

end Entity

/-- The frame loop: the entities in the order they joined and the frames run. -/
structure Loop where
  entities : List Entity := []
  frames : Nat := 0
  deriving Repr, Inhabited

namespace Loop

/-- Sets an entity up and adds it; one that fails to be set up is left out. -/
def add (l : Loop) (e : Entity) (w : World) : Loop × World × Option Fault :=
  match e.init w with
  | (w, some f) => (l, w, some f)
  | (w, none) => ({ l with entities := l.entities ++ [e] }, w, none)

def find? (l : Loop) (id : String) : Option Entity := l.entities.find? (·.id == id)

def step (l : Loop) (dt : Duration) (w : World) : Loop × World :=
  let (es, w) := l.entities.foldl (fun (acc, w) e => let (e', w') := e.tick dt w; (acc ++ [e'], w'))
    ([], w)
  ({ entities := es, frames := l.frames + 1 }, w)

def deliver (l : Loop) (id : String) (d : Delivery) (w : World) : Except Fault World :=
  match l.find? id with
  | some e => .ok (e.hear d w)
  | none => .error (.plain ("unknown entity " ++ Quote.quoted id))

def broadcast (l : Loop) (d : Delivery) (w : World) : World :=
  l.entities.foldl (fun w e => e.hear d w) w

end Loop

end Viewing
end JuryCaptions
