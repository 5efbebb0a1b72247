import JuryCaptions.Service.Focus
/-!
Operations on framed streams: writing frames and reading them back as raw bytes,
caption messages, orientations or any document.
-/

namespace JuryCaptions
namespace Service

def frameReadLimit : Nat := 2000

def unmarshalFault (e : Json.DecodeError) : Fault := .plain ("unmarshal frame: " ++ e.message)

def frameBodyJson (as : String) (body : List UInt8) : Json :=
  let failed (e : Json.DecodeError) : Json := .obj [("decode_error", faultJson (unmarshalFault e))]
  match as with
  | "caption" =>
    match CaptionMessage.ofBody body with
    | .ok m => .obj [("message", m.toJson), ("focused", .str m.focusedId)]
    | .error e => failed e
  | "orientation" =>
    match Orientation.ofBody body with
    | .ok o => .obj [("azimuth", floatJson o.azimuth), ("pitch", floatJson o.pitch), ("roll", floatJson o.roll)]
    | .error e => failed e
  | "any" =>
    match Json.decodeBytes body .anything with
    | .ok (.doc d) => .obj [("json", .str (Json.compact d))]
    | .ok _ => .obj [("json", .str "null")]
    | .error e => failed e
  | _ => .obj [("hex", .str (Utf8.toHex body))]

def wireDecodeOp (r : Json) : Handled Json := do
  let bs ← Req.hex r "hex"
  let limit ← Req.int r "max"
  let as ← Req.strD r "as" "raw"
  if !(["raw", "caption", "orientation", "any"].contains as) then
    throw (unknown "decode kind" as)
  let (bodies, stop) := Frame.decodeAll (Frame.limitOf limit) frameReadLimit bs
  pure (answer [("frames", .arr (bodies.map (frameBodyJson as))),
    ("end", match stop with
      | some f => faultJson f
      | none => .null)])

def frameBodyOf (f : Json) : Handled (Except Fault (List UInt8)) := do
  if f.has "body_hex" then
    let bs ← Req.hex f "body_hex"
    pure (.ok bs)
  else if f.has "caption_message" then
    let m ← Req.obj f "caption_message"
    let msg ← Req.message m
    pure (.ok msg.body)
  else if f.has "orientation" then
    let o ← Req.obj f "orientation"
    let o ← orientationOf o
    pure o.body
  else match f.get? "value" with
  | some v =>
    match Json.normalizeAny v with
    | .ok d => pure (.ok (Utf8.encode (Json.compact d)))
    | .error (lit, _) => throw (badInput ("number out of range: " ++ lit))
  | none =>
    let body ← Req.str f "body"
    pure (.ok (Utf8.encode body))

def wireEncodeOp (r : Json) : Handled Json := do
  let limit ← Req.int r "max"
  let frames ← Req.list r "frames"
  let written ← frames.mapM fun f => do
    let body ← frameBodyOf f
    let writeError ← Req.str f "write_error"
    pure (match body >>= Frame.encode (Frame.limitOf limit) with
      | .error e => ([], some e)
      | .ok bytes =>
        if writeError != "" then ([], some (.plain ("write frame: " ++ writeError)))
        else (bytes, none))
  let frameJson (w : List UInt8 × Option Fault) : Json :=
    .obj ([("hex", .str (Utf8.toHex w.1))] ++ Json.optField "error" (w.2.map faultJson))
  pure (answer [("frames", .arr (written.map frameJson)),
    ("hex", .str (Utf8.toHex (written.flatMap (·.1))))])

end Service
end JuryCaptions
