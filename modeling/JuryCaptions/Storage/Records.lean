import JuryCaptions.Caption.Basic
import JuryCaptions.Time.Instant
import JuryCaptions.Geometry.Vector
/-!
What a viewing session records: the session, and the captions sent, the focus
and target changes and sampled speaker positions, with their times.
-/

namespace JuryCaptions

structure Session where
  id : Nat := 0
  uuid : String := ""
  method : RenderingMethod := ⟨0⟩
  captionsFile : String := ""
  focusSource : String := ""
  clientAddr : String := ""
  startTime : Instant := Instant.zero
  endTime : Instant := Instant.zero
  deriving Repr, Inhabited

/-- A caption message as sent, and how late the send was. -/
structure CaptionRecord where
  time : Instant
  message : CaptionMessage
  sendDelay : Duration
  deriving Repr, Inhabited

structure FocusRecord where
  time : Instant
  focused : SpeakerId
  source : String
  deriving Repr, Inhabited

/-- A change of the caption target from user input. -/
structure TargetRecord where
  time : Instant
  target : SpeakerId
  input : String
  deriving Repr, Inhabited

structure PositionRecord where
  time : Instant
  speaker : SpeakerId
  position : Vec3
  deriving Repr, Inhabited

end JuryCaptions
