import JuryCaptions.Wire.Frame
import JuryCaptions.Caption.Basic
import JuryCaptions.Caption.Wrap
import JuryCaptions.Json.Decode
import JuryCaptions.Json.Write
import JuryCaptions.Text.Utf8
import JuryCaptions.System.Address
/-!
The client that stands in for the glasses.

It prints every caption message until the server hangs up, as indented JSON
and a rule or, given a width, as the rolling two lines with the speaker and the
juror in focus. An address that does not resolve fails before connecting.
-/

namespace JuryCaptions
namespace Cli

/-- What dialing a host and port gives: everything the peer sends until it hangs
up, or why no connection was made. -/
abbrev Dialer := String → Nat → Except String (List UInt8)

def unreachable : Dialer := fun host port =>
  .error ("dial tcp " ++ Address.join host port ++ ": connect: network is unreachable")

def dial (dialer : Dialer) (addr : String) : Except String (List UInt8) :=
  match Address.resolve addr with
  | .ok (host, port) => dialer host port
  | .error e => .error ("dial tcp: " ++ e)

inductive Display where
  /-- Every message as indented JSON. -/
  | raw
  /-- The rolling two lines at a width, with the message and chunk ids last added. -/
  | rolling (width : Int) (words : Utterance) (last : Int × Int)

/-- Shows one message: the text printed and the display for the next. -/
def Display.show (d : Display) (m : CaptionMessage) : String × Display :=
  match d with
  | .raw => (Json.indented "  " m.toJson ++ "\n-----------------------------\n", .raw)
  | .rolling width words last =>
    let id := (m.messageId, m.chunkId)
    let words := if id != last then words.add m.text m.speaker else words
    let (speaker, text) := words.view width
    let focus := if m.focusedId.isEmpty then "none" else m.focusedId
    ("[" ++ speaker ++ ", focus " ++ focus ++ "]\n" ++ text ++ "\n\n", .rolling width words id)

/-- The display for a width: raw unless the width is positive. -/
def Display.ofWidth (width : Int) : Display :=
  if width > 0 then .rolling width {} (-1, -1) else .raw

/-- Prints the caption messages of a stream until it ends between frames: the
text printed and the failure that stopped it, if any. -/
def printCaptions (d : Display) (bs : List UInt8) : String × Option String :=
  match _h : Frame.decode Frame.defaultLimit bs with
  | .error f => ("", if f.kind == .endOfStream then none else some f.message)
  | .ok (body, rest) =>
    match CaptionMessage.ofBody body with
    | .error e => ("", some ("unmarshal frame: " ++ e.message))
    | .ok m =>
      let (text, d) := d.show m
      let (more, stop) := printCaptions d rest
      (text ++ more, stop)
termination_by bs.length
decreasing_by exact Frame.decode_rest_length _h

end Cli
end JuryCaptions
