import JuryCaptions.Storage.Records
import JuryCaptions.Json.Write
import JuryCaptions.Number.Format
/-!
Database rows of a recorded session, one a record. A juror that is nobody is
stored as missing, a caption as the JSON message sent with its delay in
milliseconds, a position as an XYZ point, which must be finite.
-/

namespace JuryCaptions
namespace Storage

def jurorValue (id : SpeakerId) : Option SpeakerId := if id.isEmpty then none else some id

structure SessionRow where
  id : Nat
  uuid : String
  method : Int
  methodName : String
  captionsFile : String
  focusSource : String
  clientAddr : String
  startTime : Instant
  endTime : Option Instant
  deriving Repr, Inhabited

structure CaptionRow where
  id : Nat := 0
  time : Instant
  sessionId : Nat := 0
  messageId : Int
  chunkId : Int
  speaker : SpeakerId
  focused : Option SpeakerId
  sendDelayMs : Float
  payload : String
  deriving Repr, Inhabited

structure FocusRow where
  id : Nat := 0
  time : Instant
  sessionId : Nat := 0
  focused : Option SpeakerId
  source : String
  deriving Repr, Inhabited

structure TargetRow where
  id : Nat := 0
  time : Instant
  sessionId : Nat := 0
  target : Option SpeakerId
  input : String
  deriving Repr, Inhabited

structure PositionRow where
  id : Nat := 0
  time : Instant
  sessionId : Nat := 0
  speaker : SpeakerId
  position : Vec3
  deriving Repr, Inhabited

/-- The row of a session; an end time is stored once there is one. -/
def SessionRow.ofSession (s : Session) : SessionRow where
  id := s.id
  uuid := s.uuid
  method := s.method.code
  methodName := s.method.name
  captionsFile := s.captionsFile
  focusSource := s.focusSource
  clientAddr := s.clientAddr
  startTime := s.startTime
  endTime := if s.endTime.isZero then none else some s.endTime

def millisOf (d : Duration) : Float := Float.ofInt d / 1000000.0

def CaptionRow.ofRecord (r : CaptionRecord) : CaptionRow where
  time := r.time
  messageId := r.message.messageId
  chunkId := r.message.chunkId
  speaker := r.message.speaker
  focused := (r.message.focused.bind jurorValue)
  sendDelayMs := millisOf r.sendDelay
  payload := Json.compact r.message.toJson

def FocusRow.ofRecord (r : FocusRecord) : FocusRow where
  time := r.time
  focused := jurorValue r.focused
  source := r.source

def TargetRow.ofRecord (r : TargetRecord) : TargetRow where
  time := r.time
  target := jurorValue r.target
  input := r.input

def isFinite (x : Float) : Bool := !(x.isNaN || x.isInf)

/-- A position as its coordinates are printed: `[x y z]`. -/
def Vec3.describe (v : Vec3) : String :=
  "[" ++ FloatText.general v.x ++ " " ++ FloatText.general v.y ++ " " ++ FloatText.general v.z ++ "]"

def PositionRow.ofRecord (r : PositionRecord) : Except Fault PositionRow :=
  if isFinite r.position.x && isFinite r.position.y && isFinite r.position.z then
    .ok { time := r.time, speaker := r.speaker, position := r.position }
  else .error (.plain ("speaker " ++ r.speaker ++ ": invalid position " ++ Vec3.describe r.position))

end Storage
end JuryCaptions
