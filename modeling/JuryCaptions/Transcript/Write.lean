import JuryCaptions.Transcript.Text
/-!
Writing WebVTT transcripts: the header, then each cue numbered from one with
its `NOTE` comments, timing line and lines; times `hh:mm:ss.ttt`, milliseconds
cut, and `&` and `<` encoded.
-/

namespace JuryCaptions
namespace Transcript

/-- A whole number with a leading zero below ten, as times write their fields. -/
def twoDigits (n : Int) : String := (if n < 10 then "0" else "") ++ toString n

/-- The milliseconds field of a time: `k` thousandths written with three
decimals, less the leading `0.` (or `-0`). -/
def millisField (k : Int) : String :=
  let digits := toString k.natAbs
  let frac := String.ofList (List.replicate (3 - digits.length) '0') ++ digits
  ((if k < 0 then "-0." else "0.") ++ frac).drop 2 |>.toString

/-- A time as `hh:mm:ss.ttt`; each field is the quotient toward zero of what is
left of the time, so a negative time gives negative fields. -/
def formatTime (d : Duration) : String :=
  let hours := d.tdiv 3600000000000
  let minutes := (d.tmod 3600000000000).tdiv 60000000000
  let seconds := (d.tmod 60000000000).tdiv 1000000000
  let millis := (d.tmod 1000000000).tdiv 1000000
  twoDigits hours ++ ":" ++ twoDigits minutes ++ ":" ++ twoDigits seconds ++ "." ++ millisField millis

def Tag.opening (t : Tag) : String :=
  if t.name.isEmpty then ""
  else
    "<" ++ t.name ++ (if t.classes.isEmpty then "" else "." ++ ".".intercalate t.classes) ++
      (if t.annotation.isEmpty then "" else " " ++ t.annotation) ++ ">"

def Tag.closing (t : Tag) : String := if t.name.isEmpty then "" else "</" ++ t.name ++ ">"

/-- A fragment inside its tags, each opened before the text and closed after
it, innermost first. -/
def Fragment.render (f : Fragment) : String :=
  String.join (f.tags.map Tag.opening) ++ escape f.text ++ String.join (f.tags.reverse.map Tag.closing)

def CueLine.render (l : CueLine) : String :=
  (if l.voice.isEmpty then "" else "<v " ++ l.voice ++ ">") ++
    " ".intercalate (l.fragments.map Fragment.render) ++ "\n"

def Cue.settingsText (c : Cue) : String :=
  let one (key value : String) : String := if value.isEmpty then "" else " " ++ key ++ ":" ++ value
  one "align" c.settings.align ++ one "line" c.settings.line ++ one "position" c.settings.position ++
    (match c.region with
      | some r => " region:" ++ r.id
      | none => "") ++
    one "size" c.settings.size ++ one "vertical" c.settings.vertical

def Cue.render (c : Cue) (n : Nat) : String :=
  (if c.comments.isEmpty then "" else "NOTE " ++ String.join (c.comments.map (· ++ "\n")) ++ "\n") ++
    toString n ++ "\n" ++ formatTime c.start ++ " --> " ++ formatTime c.stop ++ c.settingsText ++ "\n" ++
    String.join (c.lines.map CueLine.render) ++ "\n"

def render (cues : List Cue) : String :=
  if cues.isEmpty then "WEBVTT\n"
  else
    let body := "WEBVTT\n\n" ++ String.join (cues.zipIdx.map fun (c, i) => c.render (i + 1))
    (body.dropEnd 1).toString

end Transcript
end JuryCaptions
