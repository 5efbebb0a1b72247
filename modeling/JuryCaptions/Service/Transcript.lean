import JuryCaptions.Service.Captions
import JuryCaptions.Transcript.Read
import JuryCaptions.Transcript.Write
import JuryCaptions.Transcript.Merge
/-!
Operations on transcripts: merging, cutting into sections and naming files. A
transcript is plain cues or WebVTT text; a named section reads back all four
jurors' files.
-/

namespace JuryCaptions
namespace Service

open Transcript

def transcriptDir : String := "<dir>"

def cueOf (j : Json) : Handled Cue := do
  let start ← Req.int j "start_ns"
  let stop ← Req.int j "end_ns"
  let lines ← Req.list j "lines"
  let lines ← lines.mapM fun l => match l with
    | .arr xs => xs.mapM fun x => match x with
      | .str s => pure s
      | _ => throw (fieldError "lines" "a list of lists of strings")
    | .null => pure []
    | _ => throw (fieldError "lines" "a list of lists of strings")
  pure (Cue.plain start stop lines)

def cueJson (c : Cue) : Json :=
  .obj [("start_ns", .int c.start), ("end_ns", .int c.stop),
    ("lines", .arr (c.texts.map fun l => .arr (l.map Json.str)))]

/-- Reads a stored transcript file that holds `text`, or is missing. -/
def readTranscriptFile (path : String) (text : Option String) : Except Fault (List Cue) :=
  match text with
  | none => .error (.plain ("open " ++ path ++ ": open " ++ path ++ ": no such file or directory"))
  | some t => (Transcript.parse t).mapError (Fault.context ("parse " ++ path))

/-- How a juror's transcript is given: absent, as cues, or as text. -/
inductive TranscriptInput where
  | absent
  | cues (cs : List Cue)
  | text (t : String)

def transcriptInputOf (jurors : Json) (id : SpeakerId) : Handled TranscriptInput :=
  match jurors.get? id with
  | none | some .null => pure .absent
  | some j => do
    if ← Req.bool j "nil" then pure .absent
    else if j.has "vtt" then
      let t ← Req.str j "vtt"
      pure (.text t)
    else
      let cs ← Req.list j "cues"
      let cs ← cs.mapM cueOf
      pure (.cues cs)

/-- The jurors' transcripts, read in seat order, stopping at the first that
cannot be read. -/
def loadTranscripts (inputs : List (SpeakerId × TranscriptInput)) (part : Option Int) :
    Except Fault (List (SpeakerId × Option (List Cue))) :=
  inputs.mapM fun (id, input) =>
    match part with
    | some n =>
      let stored := match input with
        | .text t => some t
        | _ => none
      (readTranscriptFile (transcriptDir ++ "/" ++ fileName id n) stored).map fun cs => (id, some cs)
    | none =>
      match input with
      | .absent => .ok (id, none)
      | .cues cs => .ok (id, some cs)
      | .text t => (readTranscriptFile (transcriptDir ++ "/" ++ fileName id 0) (some t)).map
          fun cs => (id, some cs)

def vttMergeOp (r : Json) : Handled Json := do
  let jurors ← Req.obj r "jurors"
  let inputs ← Juror.all.mapM fun j => do
    let input ← transcriptInputOf jurors j.id
    pure (j.id, input)
  let part ← if r.has "read_dir_section" then do
      let n ← Req.int r "read_dir_section"
      pure (some n)
    else pure none
  pure (match loadTranscripts inputs part with
    | .ok loaded =>
      let perJuror (id : SpeakerId) : Option (List Cue) := ((loaded.find? (·.1 == id)).map (·.2)).join
      answer [("captions", .arr ((merge perJuror).map captionJson))]
    | .error f => faultJson f)

/-- A section in an answer: its cues and its WebVTT text. -/
def sectionJson (cs : List Cue) : Json :=
  .obj [("cues", .arr (cs.map cueJson)), ("vtt", .str (Transcript.render cs))]

def vttPartitionOp (r : Json) : Handled Json := do
  let bounds ← if r.has "bounds_ns" then Req.ints r "bounds_ns" else pure defaultBounds
  let cues ← if r.has "vtt" then do
      let t ← Req.str r "vtt"
      pure (readTranscriptFile (transcriptDir ++ "/in.vtt") (some t))
    else do
      let cs ← Req.list r "cues"
      let cs ← cs.mapM cueOf
      pure (.ok cs)
  pure (match cues with
    | .ok cs =>
      answer [("sections", match partition cs bounds with
          | some parts => .arr (parts.map sectionJson)
          | none => .null),
        ("input", .arr (cs.map cueJson))]
    | .error f => faultJson f)

def vttFileNameOp (r : Json) : Handled Json := do
  let id ← Req.str r "id"
  let n ← Req.int r "section"
  pure (answer [("name", .str (fileName id n))])

end Service
end JuryCaptions
