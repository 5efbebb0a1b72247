import JuryCaptions.Jury.Juror
import JuryCaptions.Time.Duration
import JuryCaptions.Json.Write
import JuryCaptions.Json.Decode
/-!
Captions and the messages that carry them to the glasses.

A caption is one timed chunk of the transcript; a caption message carries a
caption's ids, text and speaker and the juror in focus, absent when nobody is.
-/

namespace JuryCaptions

structure Caption where
  text : String := ""
  messageId : Int := 0
  chunkId : Int := 0
  delay : Float := 0.0
  speaker : SpeakerId := ""
  deriving Repr, Inhabited

namespace Caption

def offset (c : Caption) : Duration := Duration.ofMillis c.delay

def shape : Json.Shape :=
  .record "core.Caption" "Caption"
    [("text", .text "string"), ("message_id", .whole "int"), ("chunk_id", .whole "int"),
     ("delay", .double), ("speaker_id", .text "core.JurorID")]

def ofValue (v : Json.Value) : Caption :=
  { text := (v.get "text").str, messageId := (v.get "message_id").int,
    chunkId := (v.get "chunk_id").int, delay := (v.get "delay").float,
    speaker := (v.get "speaker_id").str }

end Caption

structure CaptionMessage where
  messageId : Int
  chunkId : Int
  text : String
  speaker : SpeakerId
  focused : Option SpeakerId
  deriving Repr, Inhabited, BEq

namespace CaptionMessage

/-- The message for a caption while `focused` is looked at; the empty id is no focus. -/
def ofCaption (c : Caption) (focused : SpeakerId) : CaptionMessage :=
  { messageId := c.messageId, chunkId := c.chunkId, text := c.text, speaker := c.speaker,
    focused := if SpeakerId.isSet focused then some focused else none }

def focusedId (m : CaptionMessage) : SpeakerId := m.focused.getD ""

def toJson (m : CaptionMessage) : Json :=
  .obj [("message_id", .int m.messageId), ("chunk_id", .int m.chunkId), ("text", .str m.text),
    ("speaker_id", .str m.speaker), ("focused_id", match m.focused with
      | some f => .str f
      | none => .null)]

def shape : Json.Shape :=
  .record "core.CaptionMessage" "CaptionMessage"
    [("message_id", .whole "int"), ("chunk_id", .whole "int"), ("text", .text "string"),
     ("speaker_id", .text "core.JurorID"), ("focused_id", .optional (.text "core.JurorID"))]

def ofValue (v : Json.Value) : CaptionMessage :=
  { messageId := (v.get "message_id").int, chunkId := (v.get "chunk_id").int,
    text := (v.get "text").str, speaker := (v.get "speaker_id").str,
    focused := (v.get "focused_id").optStr }

/-- The body of the frame that carries the message: its compact JSON text. -/
def body (m : CaptionMessage) : List UInt8 := Utf8.encode (Json.compact m.toJson)

def ofBody (body : List UInt8) : Except Json.DecodeError CaptionMessage :=
  (Json.decodeBytes body shape).map ofValue

end CaptionMessage

/-- A head orientation reported by a device, in degrees. -/
structure Orientation where
  azimuth : Float := 0.0
  pitch : Float := 0.0
  roll : Float := 0.0
  deriving Repr, Inhabited

namespace Orientation

def shape : Json.Shape :=
  .record "core.OrientationMessage" "OrientationMessage"
    [("azimuth", .double), ("pitch", .double), ("roll", .double)]

def ofValue (v : Json.Value) : Orientation :=
  { azimuth := (v.get "azimuth").float, pitch := (v.get "pitch").float, roll := (v.get "roll").float }

/-- The body of an orientation frame; not-a-number and the infinities cannot be written. -/
def body (o : Orientation) : Except Fault (List UInt8) :=
  match (do
      let a ← Json.floatDoc o.azimuth
      let p ← Json.floatDoc o.pitch
      let l ← Json.floatDoc o.roll
      pure (Json.obj [("azimuth", a), ("pitch", p), ("roll", l)]) : Except String Json) with
  | .ok d => .ok (Utf8.encode (Json.compact d))
  | .error e => .error (.plain ("marshal frame: " ++ e))

def ofBody (body : List UInt8) : Except Json.DecodeError Orientation :=
  (Json.decodeBytes body shape).map ofValue

end Orientation

end JuryCaptions
