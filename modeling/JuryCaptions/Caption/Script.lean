import JuryCaptions.Caption.Basic
import JuryCaptions.Number.Format
/-!
Caption scripts.

A caption script is a JSON array of captions. It is accepted when it holds at
least one caption, every caption names one of the four jurors and no delay is
negative; the captions are then put in order of delay, captions of equal delay
keeping their order in the script.
-/

namespace JuryCaptions
namespace Script

def shape : Json.Shape := .list "[]core.Caption" Caption.shape

def byDelay (cs : List Caption) : List Caption :=
  cs.mergeSort fun a b => !(b.delay < a.delay)

/-- The first caption that breaks a rule: an unknown speaker, checked first, or a
negative delay. -/
def check : Nat → List Caption → Except Fault Unit
  | _, [] => .ok ()
  | i, c :: cs =>
    if !SpeakerId.isValid c.speaker then
      .error ⟨.unknownJuror, "caption " ++ toString i ++ ": unknown juror id: " ++ Quote.quoted c.speaker⟩
    else if c.delay < 0 then
      .error (.plain ("caption " ++ toString i ++ ": negative delay " ++ FloatText.general c.delay))
    else check (i + 1) cs

def validate (cs : List Caption) : Except Fault (List Caption) :=
  if cs.isEmpty then .error ⟨.noCaptions, "no captions"⟩
  else match check 0 cs with
    | .error e => .error e
    | .ok () => .ok (byDelay cs)

def parse (data : List UInt8) : Except Fault (List Caption) :=
  match Json.decodeBytes data shape with
  | .error e => .error (.plain ("decode captions: " ++ e.message))
  | .ok v => validate (v.items.map Caption.ofValue)

end Script
end JuryCaptions
