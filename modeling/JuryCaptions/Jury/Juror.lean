import JuryCaptions.Fault
import JuryCaptions.Text.Quote
/-!
The four jurors of the deliberation and the ids that name them.

A speaker id is text: one of the four juror names, the empty id for nobody, or
any other text as it arrived, which is not valid. Jurors are seated in the order
juror A, juror B, juror C, foreman, and their seat is their index.
-/

namespace JuryCaptions

inductive Juror where
  | jurorA
  | jurorB
  | jurorC
  | foreman
  deriving Repr, BEq, DecidableEq, Inhabited

namespace Juror

def all : List Juror := [.jurorA, .jurorB, .jurorC, .foreman]

def id : Juror → String
  | .jurorA => "juror-a"
  | .jurorB => "juror-b"
  | .jurorC => "juror-c"
  | .foreman => "jury-foreman"

def index : Juror → Nat
  | .jurorA => 0
  | .jurorB => 1
  | .jurorC => 2
  | .foreman => 3

def ofId? (s : String) : Option Juror :=
  all.find? (·.id == s)

def ofIndex? (i : Int) : Option Juror :=
  if i < 0 then none else all[i.toNat]?

end Juror

abbrev SpeakerId := String

namespace SpeakerId

def none : SpeakerId := ""

def isSet (s : SpeakerId) : Bool := s != ""

def isValid (s : SpeakerId) : Bool := (Juror.ofId? s).isSome

/-- The seat of the juror an id names, `-1` for any other id. -/
def index (s : SpeakerId) : Int :=
  match Juror.ofId? s with
  | some j => j.index
  | Option.none => -1

def unknown (s : String) : Fault :=
  ⟨.unknownJuror, "unknown juror id: " ++ Quote.quoted s⟩

def parse (s : String) : Except Fault SpeakerId :=
  if s == "" || isValid s then .ok s else .error (unknown s)

def ofIndex (i : Int) : Except Fault SpeakerId :=
  match Juror.ofIndex? i with
  | some j => .ok j.id
  | Option.none => .error ⟨.unknownJuror, "unknown juror id: index " ++ toString i⟩

end SpeakerId

/-- How the glasses present captions, by its number. -/
structure RenderingMethod where
  code : Int
  deriving Repr, BEq, DecidableEq, Inhabited

namespace RenderingMethod

def names : List (Int × String) :=
  [(1, "monitor_only"), (2, "global_only"), (3, "monitor_and_global"),
   (4, "global_with_direction_indicators"), (5, "who_said_what"),
   (6, "monitor_and_global_with_direction_indicators"), (8, "focused_speaker_only"),
   (9, "focused_speaker_and_global")]

def isValid (m : RenderingMethod) : Bool := names.any (·.1 == m.code)

/-- The name of a method, or `rendering_method(n)` for an unknown number. -/
def name (m : RenderingMethod) : String :=
  match names.find? (·.1 == m.code) with
  | some (_, n) => n
  | none => "rendering_method(" ++ toString m.code ++ ")"

def parse (i : Int) : Except Fault RenderingMethod :=
  if isValid ⟨i⟩ then .ok ⟨i⟩ else .error (.plain ("invalid rendering method " ++ toString i))

end RenderingMethod

end JuryCaptions
