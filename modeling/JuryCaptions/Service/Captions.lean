import JuryCaptions.Service.Identity
import JuryCaptions.Caption.Script
import JuryCaptions.Caption.Wrap
/-!
Operations on captions, caption scripts and caption lines.
-/

namespace JuryCaptions
namespace Service

def captionOf (j : Json) : Handled Caption := do
  let text ← Req.str j "text"
  let messageId ← Req.int j "message_id"
  let chunkId ← Req.int j "chunk_id"
  let delay ← Req.float j "delay"
  let speaker ← Req.str j "speaker_id"
  pure { text, messageId, chunkId, delay, speaker }

def Req.caption (r : Json) (key : String) : Handled Caption := do
  let j ← Req.obj r key
  captionOf j

def Req.captions (r : Json) (key : String) : Handled (List Caption) := do
  let xs ← Req.list r key
  xs.mapM captionOf

def captionJson (c : Caption) : Json :=
  .obj [("text", .str c.text), ("message_id", .int c.messageId), ("chunk_id", .int c.chunkId),
    ("delay", floatJson c.delay), ("speaker_id", .str c.speaker)]

/-- A caption message given in a request as `{caption, focused}`. -/
def Req.message (r : Json) : Handled CaptionMessage := do
  let c ← Req.caption r "caption"
  let f ← Req.str r "focused"
  pure (CaptionMessage.ofCaption c f)

def timelineParseOp (r : Json) : Handled Json := do
  let data ← Req.str r "data"
  pure (match Script.parse (Utf8.encode data) with
    | .ok cs => answer [("captions", .arr (cs.map captionJson))]
    | .error e => faultJson e)

def wrapOp (r : Json) : Handled Json := do
  let words ← Req.strs r "words"
  let width ← Req.int r "width"
  pure (answer [("text", .str (Wrap.lastTwo words width))])

def utteranceStep (u : Utterance) (step : Json) : Handled (Utterance × Json) := do
  let act ← Req.str step "do"
  match act with
  | "add" =>
    let word ← Req.str step "word"
    let speaker ← Req.str step "speaker"
    pure (u.add word speaker, answer [])
  | "reset" => pure (u.reset, answer [])
  | "text" =>
    let width ← Req.int step "width"
    let (s, t) := u.view width
    pure (u, answer [("speaker", .str s), ("text", .str t)])
  | other => .error (unknown "words op" other)

def runSteps {σ : Type} (step : σ → Json → Handled (σ × Json)) (s : σ) :
    List Json → Handled (σ × List Json)
  | [] => pure (s, [])
  | x :: xs => do
    let (s', out) ← step s x
    let (s'', outs) ← runSteps step s' xs
    pure (s'', out :: outs)

def wordsOp (r : Json) : Handled Json := do
  let ops ← Req.list r "ops"
  let (_, outs) ← runSteps utteranceStep {} ops
  pure (answer [("steps", .arr outs)])

def captionMessageOp (r : Json) : Handled Json := do
  let c ← Req.caption r "caption"
  let f ← Req.str r "focused"
  let m := CaptionMessage.ofCaption c f
  pure (answer [("message", m.toJson), ("json", .str (Json.compact m.toJson)),
    ("focused", .str m.focusedId), ("at_ns", .int c.offset)])

/-- Checks the settings of a caption server: a known rendering method, then at
least one caption. -/
def serverNewOp (r : Json) : Handled Json := do
  let host ← Req.str r "host"
  let port ← Req.int r "port"
  let method ← Req.int r "rendering_method"
  let _ ← Req.int r "max_frame_size"
  let captions ← Req.captions r "captions"
  pure (match RenderingMethod.parse method with
    | .error e => faultJson e
    | .ok _ =>
      if captions.isEmpty then faultJson ⟨.noCaptions, "no captions"⟩
      else answer [("ok", .bool true), ("addr", .str (host ++ ":" ++ toString port))])

end Service
end JuryCaptions
