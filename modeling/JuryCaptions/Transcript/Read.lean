import JuryCaptions.Transcript.Text
import JuryCaptions.Text.Case
import JuryCaptions.Text.Quote
/-!
Reading WebVTT transcripts.

Lines end at line feeds, a carriage return dropped; everything before the first
`WEBVTT` line is skipped. `NOTE ` starts a comment for the next cue, a blank
line ends a block, ` --> ` starts a cue, and `X-TIMESTAMP-MAP` moves every cue
later, dropping those then at or before zero. Failures carry their line number.
-/

namespace JuryCaptions
namespace Transcript

/-- Cuts a text into lines at line feeds, each without a carriage return at
its end; a last line without a line feed counts when it is not empty. -/
def splitLines (s : String) : List String :=
  let pieces := s.splitOn "\n"
  let pieces := if pieces.getLast? == some "" then pieces.dropLast else pieces
  pieces.map fun l => if l.endsWith "\r" then (l.dropEnd 1).toString else l

/-! ### Blocks -/

inductive Block where
  | none
  | comment
  | style
  | text
  deriving BEq, Inhabited

structure ReadState where
  cues : List Cue := []
  block : Block := .none
  comments : List String := []
  css : List String := []
  regions : List Region := []
  /-- How far the last timestamp map read moves every cue. -/
  shift : Option Duration := none
  deriving Inhabited

def parseRegion (n : Nat) (settings : String) : Except Fault Region := do
  let mut id := ""
  for part in settings.splitOn " " do
    match part.splitOn "=" with
    | key :: value :: _ =>
      if key == "id" then id := value
      else if key == "lines" then
        match NumberText.readWhole value with
        | .ok _ => pure ()
        | .error e => throw (.plain ("atoi of " ++ value ++ " failed: " ++ e.message "Atoi" value))
    | _ => throw (readerFault ("line " ++ toString n ++ ": Invalid region style " ++ part))
  pure ⟨id⟩

def parseTiming (st : ReadState) (n : Nat) (line : String) : Except Fault Cue := do
  let left := line.splitOn " --> "
  let right := (left.getD 1 "").splitOn " "
  let first := left.headD ""
  let start ← (parseTime first).mapError fun f =>
    readerFault ("line " ++ toString n ++ ": parsing webvtt duration " ++ first ++ " failed: " ++ f.message)
  let stopText := right.headD ""
  let stop ← (parseTime stopText).mapError fun f =>
    readerFault ("line " ++ toString n ++ ": parsing webvtt duration " ++ stopText ++ " failed: " ++ f.message)
  let mut cue : Cue := { start, stop, comments := st.comments }
  for setting in right.drop 1 do
    if setting.isEmpty then continue
    match setting.splitOn ":" with
    | key :: value :: _ =>
      if key == "align" then cue := { cue with settings.align := value }
      else if key == "line" then cue := { cue with settings.line := value }
      else if key == "position" then cue := { cue with settings.position := value }
      else if key == "region" then
        match st.regions.find? (·.id == value) with
        | some r => cue := { cue with region := some r }
        | none => throw (readerFault ("line " ++ toString n ++ ": Unknown region " ++ value))
      else if key == "size" then cue := { cue with settings.size := value }
      else if key == "vertical" then cue := { cue with settings.vertical := value }
    | _ => throw (readerFault ("line " ++ toString n ++ ": Invalid inline style '" ++ setting ++ "'"))
  pure cue

/-- Reads a timestamp map line: how far it moves every cue, the ticks of
`MPEGTS` at 90000 a second less the time of `LOCAL`. The settings, between the
first and second `=`, are cut at commas and must each hold a colon. -/
def parseStampMap (line : String) : Except Fault Duration := do
  let splits := line.splitOn "="
  if splits.length ≤ 1 then throw (readerFault "invalid X-TIMESTAMP-MAP, no '=' found")
  let right := splits.getD 1 ""
  let mut localTime : Duration := 0
  let mut ticks : Int := 0
  for part in right.splitOn "," do
    let cs := part.toList
    let key := cs.takeWhile (· ≠ ':')
    if key.length = cs.length then
      throw (readerFault ("invalid X-TIMESTAMP-MAP, part " ++ Quote.quoted right ++ " didn't contain ':'"))
    let value := String.ofList (cs.drop (key.length + 1))
    let name := Case.lower (Blank.trim (String.ofList key))
    if name == "local" then
      localTime ← (parseTime value).mapError fun f => readerFault ("parsing webvtt duration failed: " ++ f.message)
    else if name == "mpegts" then
      ticks ← (NumberText.readWhole value).mapError fun e =>
        readerFault ("parsing int " ++ value ++ " failed: " ++ e.message "ParseInt" value)
  pure (Duration.wrap ((Duration.wrap (ticks * 1000000000)).tdiv 90000 - localTime))

/-- Moves every cue later by `d`. A cue that then neither starts nor ends after
zero is dropped, and one that only ends after zero starts at zero. -/
def moveLater (d : Duration) (cues : List Cue) : List Cue :=
  cues.filterMap fun c =>
    let start := Duration.wrap (c.start + d)
    let stop := Duration.wrap (c.stop + d)
    if stop ≤ 0 ∧ start ≤ 0 then none
    else some { c with start := if start ≤ 0 then 0 else start, stop }

def addText (cues : List Cue) (l : CueLine) : List Cue :=
  match cues.getLast? with
  | some c => cues.dropLast ++ [{ c with lines := c.lines ++ [l] }]
  | none => cues

/-- Reads one line after the header, the `n`-th of the text. -/
def readLine (st : ReadState) (n : Nat) (raw : String) : Except Fault ReadState := do
  let line := Blank.trim raw
  if line.startsWith "NOTE " then
    pure { st with block := .comment, comments := st.comments ++ [(line.drop 5).toString] }
  else if line.isEmpty then
    let closed := st.block != .style || st.css.isEmpty || (st.css.getLast?.getD "").endsWith "\x7d"
    pure (if closed then { st with block := .none } else st)
  else if line.startsWith "Region: " then
    let r ← parseRegion n (line.drop 8).toString
    pure { st with regions := st.regions.filter (·.id != r.id) ++ [r] }
  else if line.startsWith "STYLE" then pure { st with block := .style }
  else if (line.splitOn " --> ").length > 1 then
    let cue ← parseTiming st n line
    pure { st with block := .text, comments := [], cues := st.cues ++ [cue] }
  else if line.startsWith "X-TIMESTAMP-MAP" then
    if (st.cues.getLast?.map fun c => !c.lines.isEmpty) == some true then
      throw (readerFault "found timestamp map after processing subtitle items")
    let shift ← (parseStampMap line).mapError fun f =>
      readerFault ("parsing webvtt timestamp map failed: " ++ f.message)
    pure { st with shift := some shift }
  else
    match st.block with
    | .comment => pure { st with comments := st.comments ++ [line] }
    | .style => pure { st with css := st.css ++ [line] }
    | .text =>
      let l := parseCueLine line
      pure (if l.fragments.isEmpty then st else { st with cues := addText st.cues l })
    | .none => pure st

def isHeader (line : String) : Bool :=
  let line := if line.startsWith "\uFEFF" then (line.drop 1).toString else line
  (Blank.fields line).head? == some "WEBVTT"

def parse (text : String) : Except Fault (List Cue) := do
  let lines := splitLines text
  match lines.findIdx? isHeader with
  | none => pure []
  | some h =>
    let body := (lines.drop (h + 1)).zipIdx (h + 2)
    let st ← body.foldlM (fun st (line, n) => readLine st n line) {}
    pure (match st.shift with
      | some d => if 0 < d then moveLater d st.cues else st.cues
      | none => st.cues)

end Transcript
end JuryCaptions
