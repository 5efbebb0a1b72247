import JuryCaptions.Transcript.Cue
import JuryCaptions.Text.Blank
import JuryCaptions.Caption.Basic
import JuryCaptions.Jury.Juror
/-!
From transcripts to caption scripts, and transcripts cut into sections. Merging
orders the cues with text by start, earlier jurors first on a tie, each giving
one caption a word. Section `i` holds the cues within bounds `i` and `i + 1`,
moved to start from bound `i`, wrapping at 64 bits.
-/

namespace JuryCaptions
namespace Transcript

/-- The section bounds of a recording: every two and a half minutes up to ten. -/
def defaultBounds : List Duration :=
  [0, 150000000000, 300000000000, 450000000000, 600000000000]

/-- The file of a juror's transcript; section zero is the whole recording. -/
def fileName (id : SpeakerId) (part : Int) : String :=
  if part = 0 then id ++ ".vtt" else id ++ "." ++ toString part ++ ".vtt"

def Cue.text (c : Cue) : String :=
  " ".intercalate (c.lines.flatMap fun l => l.fragments.map (·.text))

def millis (d : Duration) : Float := Float.ofInt d / 1000000.0

/-- The captions of one cue of a speaker, the `index`-th cue. -/
def Cue.captions (c : Cue) (speaker : SpeakerId) (index : Nat) : List Caption :=
  let words := Blank.fields (Blank.trim c.text)
  let start := millis c.start
  -- the cue's length wraps around at the 64-bit bounds, as the times do
  let step := millis (Duration.wrap (c.stop - c.start)) / words.length.toFloat
  words.zipIdx.map fun (w, j) =>
    { text := w, messageId := index, chunkId := j, delay := start + j.toFloat * step, speaker := speaker }

/-- Merges the jurors' transcripts into one caption script. A juror without a
transcript is skipped. -/
def merge (perJuror : SpeakerId → Option (List Cue)) : List Caption :=
  let cues := Juror.all.flatMap fun j =>
    match perJuror j.id with
    | some cs => (cs.filter fun c => !(Blank.trim c.text).isEmpty).map fun c => (j.id, c)
    | none => []
  let sorted := cues.mergeSort fun a b => decide (a.2.start ≤ b.2.start)
  sorted.zipIdx.flatMap fun ((speaker, c), i) => c.captions speaker i

/-- The cues of a recording that lie within `[start, stop)`, moved to start from `start`. -/
def within (cues : List Cue) (start stop : Duration) : List Cue :=
  (cues.filter fun c => !(c.start < start || c.stop ≥ stop)).map (·.shift start)

def partition (cues : List Cue) (bounds : List Duration) : Option (List (List Cue)) :=
  if bounds.length < 2 then none
  else some ((bounds.zip bounds.tail).map fun (a, b) => within cues a b)

end Transcript
end JuryCaptions
