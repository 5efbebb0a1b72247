import JuryCaptions.Caption.Basic
import JuryCaptions.Wire.Frame
/-!
The caption stream to the glasses.

A message goes out only when the pair of caption and juror in focus differs,
field by field, from the pair sent last, so a caption whose delay is not a
number goes out on every pass. A failed write ends the stream, named by the
caption's ids. A player emits a timeline's captions in order unless cancelled.
-/

namespace JuryCaptions

def Caption.same (a b : Caption) : Bool :=
  a.text == b.text && a.messageId == b.messageId && a.chunkId == b.chunkId && a.delay == b.delay &&
    a.speaker == b.speaker

inductive Delivery where
  /-- Nothing new to send. -/
  | idle
  /-- A message went out as the given frame body. -/
  | sent (msg : CaptionMessage) (body : String)
  /-- Writing the message failed; the stream stops. -/
  | failed (f : Fault)
  deriving Inhabited

structure CaptionStream where
  /-- The pair sent last. -/
  last : Option (Caption × SpeakerId) := none
  /-- The number of messages sent. -/
  count : Nat := 0
  deriving Inhabited

namespace CaptionStream

def isLast (s : CaptionStream) (c : Caption) (focused : SpeakerId) : Bool :=
  match s.last with
  | some (c', f') => c'.same c && f' == focused
  | none => false

/-- One pass: sends the current pair unless it was sent last. Writing checks
the frame limit, then `writeFailure` makes the writer fail. -/
def pass (s : CaptionStream) (caption : Option Caption) (focused : SpeakerId) (limit : Nat)
    (writeFailure : Option String) : CaptionStream × Delivery :=
  match caption with
  | none => (s, .idle)
  | some c =>
    if s.isLast c focused then (s, .idle)
    else
      let msg := CaptionMessage.ofCaption c focused
      let body := Json.compact msg.toJson
      let written : Except Fault Unit := match Frame.encode limit (Utf8.encode body) with
        | .error f => .error f
        | .ok _ => match writeFailure with
          | some m => .error (.plain ("write frame: " ++ m))
          | none => .ok ()
      match written with
      | .error f =>
        (s, .failed (f.context ("send caption " ++ toString c.messageId ++ "/" ++ toString c.chunkId)))
      | .ok () => ({ last := some (c, focused), count := s.count + 1 }, .sent msg body)

end CaptionStream

namespace Player

def cancelled : Fault := .plain "context canceled"

def play (captions : List Caption) (isCancelled : Bool) : List Caption × Option Fault :=
  match captions with
  | [] => ([], none)
  | _ :: _ => if isCancelled then ([], some cancelled) else (captions, none)

/-- The current caption after emitting some: the last one. -/
def current (emitted : List Caption) : Option Caption := emitted.getLast?

end Player

end JuryCaptions
