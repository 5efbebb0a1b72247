import JuryCaptions.Service.Playback
import JuryCaptions.Qr.Picture
/-!
The pairing code: the code a viewer scans to find the server, shown as
terminal text and optionally written as a 256-pixel image.
-/

namespace JuryCaptions
namespace Service

def pairingImageSize : Nat := 256

/-- Renders a pairing code; the image, when asked for, is reported by its size
and dark pixels, and one asked for in a missing directory is not written. -/
def renderQrOp (r : Json) : Handled Json := do
  let content ← Req.str r "content"
  let png ← Req.bool r "png"
  let badPath ← Req.bool r "png_bad_path"
  let image := if png || badPath then [("png", Json.null)] else []
  match Qr.Code.ofString content with
  | .error e =>
    pure (answer ([("text", .str ""), ("error", faultJson (.plain ("encoding QR code: " ++ e)))] ++ image))
  | .ok code =>
    let text := ("text", Json.str code.toText)
    if badPath then
      pure (answer ([text, ("error", faultJson (.plain ("writing QR code image: open " ++ scratchDir ++
        "/missing/qr.png: no such file or directory")))] ++ image))
    else if png then
      pure (answer [text, ("png", .obj [("width", .nat pairingImageSize), ("height", .nat pairingImageSize),
        ("dark_pixels", .nat (code.darkPixels pairingImageSize))])])
    else pure (answer [text])

end Service
end JuryCaptions
