import JuryCaptions.Shell.Utility
import JuryCaptions.Shell.Regex
import JuryCaptions.Text.Wide
/-!
Programs that rearrange the lines of files: `uniq`, `tac`, `rev`, `nl`,
`paste`, `fold` and `cut`.
-/

namespace JuryCaptions
namespace Shell

/-! ## uniq -/

def uniqSyntax : OptionSyntax :=
  { flags := ['c', 'd', 'u', 'i', 'z'], valued := ['f', 's', 'w'], optional := ['D', 'G'],
    long := [("count", 'c'), ("repeated", 'd'), ("all-repeated", 'D'), ("group", 'G'), ("ignore-case", 'i'),
             ("unique", 'u'), ("skip-fields", 'f'), ("skip-chars", 's'), ("check-chars", 'w'),
             ("zero-terminated", 'z')] }

/-- The part of a line `uniq` compares: after `fields` fields (blanks and the
word after them) and `chars` characters, at most `width` characters. -/
def uniqKey (fields chars : Nat) (width : Option Nat) (foldCase : Bool) (line : String) : List Char :=
  let skipField (cs : List Char) : List Char := (cs.dropWhile isBlankChar).dropWhile (!isBlankChar ·)
  let cs := (List.range fields).foldl (fun cs _ => skipField cs) line.toList
  let cs := cs.drop chars
  let cs := match width with
    | some w => cs.take w
    | none => cs
  if foldCase then cs.map Char.toUpper else cs

inductive UniqMode where
  /-- One line of each run kept by `-d` and `-u`, with its count for `-c`. -/
  | first (count : Bool)
  /-- Every line of each repeated run, a separator line before each run with
  `prepend` and between runs with `separate`. -/
  | allRepeated (method : String)
  /-- Every line, runs separated as the method asks. -/
  | groups (method : String)

def uniqText (mode : UniqMode) (repeated unique : Bool) (sep : String) (runs : List (List String)) : String :=
  match mode with
  | .first count =>
    let runs := runs.filter fun r => (!repeated || r.length > 1) && (!unique || r.length == 1)
    String.join (runs.map fun r =>
      let l := r.headD ""
      if count then
        let s := toString r.length
        String.ofList (List.replicate (7 - s.length) ' ') ++ s ++ " " ++ l ++ sep
      else l ++ sep)
  | .allRepeated method =>
    let runs := runs.filter (·.length > 1)
    String.join (runs.zipIdx.map fun (r, i) =>
      (if method == "prepend" || (method == "separate" && i > 0) then sep else "") ++
        String.join (r.map (· ++ sep)))
  | .groups method =>
    let body := String.join (runs.zipIdx.map fun (r, i) =>
      (if method == "prepend" || method == "both" || (i > 0 && (method == "append" || method == "separate"))
        then sep else "") ++ String.join (r.map (· ++ sep)))
    body ++ (if !runs.isEmpty && (method == "append" || method == "both") then sep else "")

def uniqTool (t : ToolInput) (args : List String) : ToolOutcome :=
  let usage (msg : String) : ToolOutcome := t.fail ("uniq: " ++ msg ++ "\n" ++ tryHelp "uniq") 1
  match uniqSyntax.read args with
  | .error e => t.fail (e.message "uniq") 1
  | .ok o =>
    let number (c : Char) : Except String Nat :=
      match o.last? c with
      | none => .ok 0
      | some v => match v.toNat? with
        | some n => .ok n
        | none =>
          let what := if c == 'f' then "number of fields to skip"
            else if c == 's' then "number of bytes to skip" else "number of bytes to compare"
          .error ("uniq: " ++ v ++ ": invalid " ++ what ++ "\n")
    let method (c : Char) (option : String) (valid : List String) (dflt : String) : Except String String :=
      match o.last? c with
      | some "" | none => .ok dflt
      | some v => readMethod "uniq" option valid v
    match number 'f', number 's', number 'w',
        method 'D' "all-repeated" ["none", "prepend", "separate"] "none",
        method 'G' "group" ["prepend", "append", "separate", "both"] "separate" with
    | .error e, _, _, _, _ | _, .error e, _, _, _ | _, _, .error e, _, _ | _, _, _, .error e, _
    | _, _, _, _, .error e => t.fail e 1
    | .ok fields, .ok chars, .ok width, .ok allMethod, .ok groupMethod =>
      let width := if o.has 'w' then some width else none
      if o.has 'G' && (o.has 'c' || o.has 'd' || o.has 'D' || o.has 'u') then
        usage "--group is mutually exclusive with -c/-d/-D/-u"
      else if o.has 'D' && o.has 'c' then
        usage "printing all duplicated lines and repeat counts is meaningless"
      else
      match o.operands with
      | _ :: _ :: extra :: _ => t.fail (extraOperand "uniq" extra) 1
      | names =>
        let input := names.headD "-"
        match t.source input with
        | .error why => t.fail ("uniq: " ++ shownName input ++ ": " ++ why ++ "\n") 1
        | .ok text =>
          let eol := if o.has 'z' then Char.ofNat 0 else '\n'
          let key := uniqKey fields chars width (o.has 'i')
          let runs := ((recordsOf eol text).foldl (fun (acc : List (List String)) l =>
            match acc with
            | run :: rest => if key (run.headD "") == key l then (run ++ [l]) :: rest else [l] :: acc
            | [] => [[l]]) []).reverse
          let mode : UniqMode :=
            if o.has 'G' then .groups groupMethod
            else if o.has 'D' then .allRepeated allMethod
            else .first (o.has 'c')
          let out := uniqText mode (o.has 'd') (o.has 'u') (String.singleton eol) runs
          match names with
          | [_, target] =>
            match t.files.write (t.resolve target) out false with
            | .ok files => { files }
            | .error _ => t.fail ("uniq: " ++ shownName target ++ ": No such file or directory\n") 1
          | _ => t.done out

/-! ## tac and rev -/

def findBack {α : Type} (f : Nat → Option α) : Nat → Option α
  | 0 => none
  | k + 1 => match f k with
    | some a => some a
    | none => findBack f k

def lastSeparator (sep : List Char) (re : Option Regex) (text : Array Char) (pos : Nat) : Option (Nat × Nat) :=
  match re with
  | some r =>
    let head := text.extract 0 pos
    findBack (fun k => (r.matchAt head k).map fun (e, _) => (k, e - k)) pos
  | none =>
    findBack (fun k =>
      if k + sep.length ≤ pos && (List.range sep.length).all (fun i => text[k + i]? == sep[i]?) then
        some (k, sep.length)
      else none) pos

def tacRecords (text : Array Char) (before : Bool) (find : Nat → Option (Nat × Nat)) :
    Nat → Nat → Nat → List String → List String
  | 0, _, pastEnd, acc => (String.ofList (text.extract 0 pastEnd).toList :: acc).reverse
  | fuel + 1, pos, pastEnd, acc =>
    let slice (a b : Nat) : String := String.ofList (text.extract a b).toList
    match (if pos == 0 then none else find pos) with
    | none => (slice 0 pastEnd :: acc).reverse
    | some (start, len) =>
      if before then tacRecords text before find fuel start start (slice start pastEnd :: acc)
      else
        let stop := start + len
        tacRecords text before find fuel start stop (if stop != pastEnd then slice stop pastEnd :: acc else acc)

def tacTool (t : ToolInput) (args : List String) : ToolOutcome :=
  match ({ flags := ['b', 'r'], valued := ['s'],
           long := [("before", 'b'), ("regex", 'r'), ("separator", 's')] } : OptionSyntax).read args with
  | .error e => t.fail (e.message "tac") 1
  | .ok o =>
    let sep := (o.last? 's').getD "\n"
    let re : Except String (Option Regex) :=
      if o.has 'r' then (Regex.compile {} (String.ofList (Wide.decode sep))).map some else .ok none
    if sep.isEmpty then t.fail "tac: separator cannot be empty\n" 1
    else match re with
    | .error e => t.fail ("tac: " ++ e ++ "\n") 1
    | .ok re =>
      let names := o.operandsOr "-"
      let r := names.foldl (fun (r : Report) n =>
        match t.source n with
        | .ok text =>
          let cs := if re.isSome then (Wide.decode text).toArray else text.toList.toArray
          let records := tacRecords cs (o.has 'b') (lastSeparator sep.toList re cs) (cs.size + 1) cs.size cs.size []
          r.say (String.join (if re.isSome then records.map (fun x => Wide.encode x.toList) else records))
        | .error why => r.warn ("tac: failed to open " ++ quoteName n ++ " for reading: " ++ why ++ "\n")) {}
      t.finish r

def revTool (t : ToolInput) (args : List String) : ToolOutcome :=
  let names := if args.isEmpty then ["-"] else args
  let r := names.foldl (fun (r : Report) n =>
    match t.source n with
    | .ok text =>
      r.say (String.join ((linesOf text).map fun l =>
        if l.endsWith "\n" then Wide.encode (Wide.decode (lineBody l)).reverse ++ "\n"
        else Wide.encode (Wide.decode l).reverse))
    | .error why => r.warn ("rev: cannot open " ++ n ++ ": " ++ why ++ "\n")) {}
  t.finish r

/-! ## nl -/

def nlSyntax : OptionSyntax :=
  { flags := ['p'], valued := "hbfvilswnd".toList,
    long := [("header-numbering", 'h'), ("body-numbering", 'b'), ("footer-numbering", 'f'),
             ("starting-line-number", 'v'), ("line-increment", 'i'), ("no-renumber", 'p'),
             ("join-blank-lines", 'l'), ("number-separator", 's'), ("number-width", 'w'),
             ("number-format", 'n'), ("section-delimiter", 'd')] }

inductive NumberStyle where
  | all
  | nonEmpty
  | none
  | matching (r : Regex)

inductive PageSection where
  | header
  | body
  | footer
  deriving BEq

structure NlSettings where
  header : NumberStyle := .none
  body : NumberStyle := .nonEmpty
  footer : NumberStyle := .none
  start : Int := 1
  step : Int := 1
  renumber : Bool := true
  joinBlank : Int := 1
  separator : String := "\t"
  width : Nat := 6
  format : String := "rn"
  delimiter : String := "\\:"

/-- Where `nl` stands: the section, the next number and the blank lines
counted toward one numbered blank line. -/
structure NlState where
  part : PageSection := .body
  number : Int
  blanks : Int := 0

namespace NlSettings

def style (n : NlSettings) : PageSection → NumberStyle
  | .header => n.header
  | .body => n.body
  | .footer => n.footer

/-- The section a delimiter line starts: the delimiter three times, twice or
once; one of fewer than two characters starts none. -/
def sectionOf (n : NlSettings) (line : String) : Option PageSection :=
  let d := n.delimiter
  if d.length < 2 || line.length < 2 || !line.startsWith (String.ofList (d.toList.take 2)) then none
  else if line == d ++ d ++ d then some .header
  else if line == d ++ d then some .body
  else if line == d then some .footer
  else none

def numberText (n : NlSettings) (k : Int) : String :=
  let ds := toString k
  let fill := List.replicate (n.width - ds.length)
  (if n.format == "ln" then ds ++ String.ofList (fill ' ')
  else if n.format == "rz" then
    if k < 0 then "-" ++ String.ofList (List.replicate (n.width - ds.length) '0') ++ toString k.natAbs
    else String.ofList (fill '0') ++ ds
  else String.ofList (fill ' ') ++ ds) ++ n.separator

def line (n : NlSettings) (st : NlState) (body : String) : String × NlState :=
  match n.sectionOf body with
  | some part => ("\n", { st with part, number := if n.renumber then n.start else st.number })
  | none =>
    let blank := String.ofList (List.replicate (n.width + n.separator.utf8ByteSize) ' ')
    let numbered : String × NlState := (n.numberText st.number ++ body ++ "\n", { st with number := st.number + n.step })
    let plain : String × NlState := (blank ++ body ++ "\n", st)
    match n.style st.part with
    | .all =>
      if n.joinBlank > 1 then
        if !body.isEmpty then
          let (out, st) := numbered
          (out, { st with blanks := 0 })
        else if st.blanks + 1 == n.joinBlank then
          let (out, st) := numbered
          (out, { st with blanks := 0 })
        else (plain.1, { st with blanks := st.blanks + 1 })
      else numbered
    | .nonEmpty => if body.isEmpty then plain else numbered
    | .none => plain
    | .matching r => if r.matches (String.ofList (Wide.decode body)) then numbered else plain

end NlSettings

def readNumberStyle (v : String) : Option (Except String NumberStyle) :=
  match v.toList with
  | 'a' :: _ => some (.ok .all)
  | 't' :: _ => some (.ok .nonEmpty)
  | 'n' :: _ => some (.ok .none)
  | 'p' :: re => some ((Regex.compile {} (String.ofList (Wide.decode (String.ofList re)))).map .matching)
  | _ => none

/-- `nl`: numbers lines in logical pages of a header, a body and a footer, each started
by a delimiter line (`\:\:\:`, `\:\:` and `\:` by default). -/
def nlTool (t : ToolInput) (args : List String) : ToolOutcome :=
  match nlSyntax.read args with
  | .error e => t.fail (e.message "nl") 1
  | .ok o =>
    let number (v : String) (lo hi : Int) (what : String) : Except String Int :=
      (readBounded v true "" lo hi).mapError fun e => "nl: " ++ what ++ ": " ++ quoteText v ++ e.suffix ++ "\n"
    let read : Except String (NlSettings × List String) := o.given.foldlM (fun (acc : NlSettings × List String) (c, v) =>
      let (n, bad) := acc
      let style (what : String) (set : NumberStyle → NlSettings) : Except String (NlSettings × List String) :=
        match readNumberStyle v with
        | some (.ok st) => .ok (set st, bad)
        | some (.error e) => .error ("nl: " ++ e ++ "\n")
        | none => .ok (n, bad ++ [what ++ " numbering style: " ++ quoteText v])
      match c with
      | 'h' => style "invalid header" fun st => { n with header := st }
      | 'b' => style "invalid body" fun st => { n with body := st }
      | 'f' => style "invalid footer" fun st => { n with footer := st }
      | 'v' => (number v (-9223372036854775808) 9223372036854775807 "invalid starting line number").map
          fun k => ({ n with start := k }, bad)
      | 'i' => (number v 1 9223372036854775807 "invalid line number increment").map fun k => ({ n with step := k }, bad)
      | 'l' => (number v 1 9223372036854775807 "invalid line number of blank lines").map
          fun k => ({ n with joinBlank := k }, bad)
      | 'w' => (number v 1 2147483647 "invalid line number field width").map fun k => ({ n with width := k.toNat }, bad)
      | 's' => .ok ({ n with separator := v }, bad)
      | 'p' => .ok ({ n with renumber := false }, bad)
      | 'n' =>
        if v == "ln" || v == "rn" || v == "rz" then .ok ({ n with format := v }, bad)
        else .ok (n, bad ++ ["invalid line numbering format: " ++ quoteText v])
      | 'd' =>
        .ok ({ n with delimiter := if v.length == 1 then v ++ ":" else v }, bad)
      | _ => .ok (n, bad)) ({}, [])
    match read with
    | .error e => t.fail e 1
    | .ok (n, bad) =>
      if !bad.isEmpty then
        t.fail (String.join (bad.map fun b => "nl: " ++ b ++ "\n") ++ tryHelp "nl") 1
      else
        let names := o.operandsOr "-"
        let (r, _) := names.foldl (fun ((r : Report), st) name =>
          match t.source name with
          | .ok text =>
            (bodiesOf text).foldl (fun ((r : Report), st) body =>
              let (out, st) := n.line st body
              (r.say out, st)) (r, st)
          | .error why => (r.warn ("nl: " ++ shownName name ++ ": " ++ why ++ "\n"), st))
          (({} : Report), ({ number := n.start } : NlState))
        t.finish r

/-! ## paste -/

def pasteDelimiters : List Char → List String
  | [] => []
  | '\\' :: 'n' :: rest => "\n" :: pasteDelimiters rest
  | '\\' :: 't' :: rest => "\t" :: pasteDelimiters rest
  | '\\' :: '0' :: rest => "" :: pasteDelimiters rest
  | '\\' :: c :: rest => String.singleton c :: pasteDelimiters rest
  | c :: rest => String.singleton c :: pasteDelimiters rest

def joinCycling (delims : List String) (parts : List String) : String :=
  match parts with
  | [] => ""
  | first :: rest =>
    (rest.zipIdx.foldl (fun (acc : String) (x, i) =>
      acc ++ (if delims.isEmpty then "" else delims.getD (i % delims.length) "") ++ x) first)

/-- The lines each of `count` readers gets taking one input's lines in turn:
reader `k` gets lines `k`, `k + count`, … -/
def dealLines (lines : List String) (count k : Nat) : List String :=
  (lines.zipIdx.filter fun (_, i) => i % count == k).map (·.1)

/-- `paste`: the lines of its inputs side by side, joined by tabs or the
delimiters of `-d`; with `-s`, the lines of each input joined into one. -/
def pasteTool (t : ToolInput) (args : List String) : ToolOutcome :=
  match ({ flags := ['s', 'z'], valued := ['d'],
            long := [("serial", 's'), ("delimiters", 'd'), ("zero-terminated", 'z')] } :
      OptionSyntax).read args with
  | .error e => t.fail (e.message "paste") 1
  | .ok o =>
    let delims := match o.last? 'd' with
      | some d => pasteDelimiters d.toList
      | none => ["\t"]
    let names := o.operandsOr "-"
    let stdinCount := (names.filter (· == "-")).length
    let eol := if o.has 'z' then Char.ofNat 0 else '\n'
    let stdinLines := recordsOf eol t.input
    let read : Except (String × String) (List (List String)) :=
      (names.zipIdx.mapM fun (n, i) =>
        if n == "-" then
          let k := ((names.take i).filter (· == "-")).length
          if o.has 's' then .ok (if k == 0 then stdinLines else [])
          else .ok (dealLines stdinLines stdinCount k)
        else match t.read n with
          | .ok text => .ok (recordsOf eol text)
          | .error why => .error (n, why))
    match read with
    | .error (n, why) => t.fail ("paste: " ++ shownName n ++ ": " ++ why ++ "\n") 1
    | .ok columns =>
      let ending := String.singleton eol
      if o.has 's' then t.done (String.join (columns.map fun ls => joinCycling delims ls ++ ending))
      else
        let rows := columns.foldl (fun m c => max m c.length) 0
        t.done (String.join ((List.range rows).map fun i =>
          joinCycling delims (columns.map fun c => c.getD i "") ++ ending))

/-! ## fold -/

def foldColumn (bytes : Bool) (column : Nat) (c : Char) : Nat :=
  if bytes then column + 1
  else if c == '\x08' then column - 1
  else if c == '\r' then 0
  else if c == '\t' then column + 8 - column % 8
  else column + 1

/-- Where `fold` stands in a line: the characters held for it, in order, and
their column. -/
structure FoldLine where
  held : List Char := []
  column : Nat := 0

def foldPlace (width : Nat) (spaces bytes : Bool) : Nat → FoldLine → Char → String × FoldLine
  | 0, l, c => ("", { held := l.held ++ [c], column := foldColumn bytes l.column c })
  | tries + 1, l, c =>
    let column := foldColumn bytes l.column c
    if column ≤ width then ("", { held := l.held ++ [c], column })
    else
      let blankAt := if spaces then (l.held.zipIdx.filter fun (x, _) => isBlankChar x).getLast?.map (·.2) else none
      match blankAt with
      | some i =>
        let kept := l.held.drop (i + 1)
        let (out, next) := foldPlace width spaces bytes tries
          { held := kept, column := kept.foldl (foldColumn bytes) 0 } c
        (String.ofList (l.held.take (i + 1)) ++ "\n" ++ out, next)
      | none =>
        if l.held.isEmpty then ("", { held := [c], column })
        else
          let (out, next) := foldPlace width spaces bytes tries {} c
          (String.ofList l.held ++ "\n" ++ out, next)

def foldText (width : Nat) (spaces bytes : Bool) (text : String) : String :=
  let (out, l) := text.toList.foldl (fun (out, l) c =>
    if c == '\n' then (out ++ String.ofList l.held ++ "\n", ({} : FoldLine))
    else
      let (written, l) := foldPlace width spaces bytes 3 l c
      (out ++ written, l)) ("", ({} : FoldLine))
  out ++ String.ofList l.held

def foldTool (t : ToolInput) (args : List String) : ToolOutcome :=
  let before := args.takeWhile (· != "--")
  let args := before.map (fun a =>
    if a.startsWith "-" && (a.toList.drop 1).head?.any Char.isDigit then "-w" ++ (a.drop 1).toString else a) ++
    args.drop before.length
  match ({ flags := ['b', 's'], valued := ['w'], long := [("bytes", 'b'), ("spaces", 's'), ("width", 'w')] } :
      OptionSyntax).read args with
  | .error e => t.fail (e.message "fold") 1
  | .ok o =>
    let width : Except String Nat := match o.last? 'w' with
      | none => .ok 80
      | some v => match readBounded v false "" 1 18446744073709551606 with
        | .ok n => .ok n.toNat
        | .error e => .error ("fold: invalid number of columns: " ++ quoteText v ++ e.suffix ++ "\n")
    match width with
    | .error e => t.fail e 1
    | .ok width =>
      let names := o.operandsOr "-"
      let r := names.foldl (fun (r : Report) n =>
        match t.source n with
        | .ok text => r.say (foldText width (o.has 's') (o.has 'b') text)
        | .error why => r.warn ("fold: " ++ shownName n ++ ": " ++ why ++ "\n")) {}
      t.finish r

/-! ## cut -/

abbrev CutRanges := List (Nat × Option Nat)

def cutLimit : Nat := 18446744073709551615

/-- Where the reader of a position list stands. -/
structure CutScan where
  ranges : CutRanges := []
  value : Nat := 0
  digits : List Char := []
  lhs : Bool := false
  rhs : Bool := false
  dash : Bool := false
  initial : Nat := 1

/-- Reads a position list of `cut`: `N`, `N-M`, `N-` and `-M`, joined by commas
or blanks, each failure worded for fields or for positions. -/
def scanCutList (fields : Bool) : List Char → CutScan → Except String CutRanges
  | cs, st =>
    let zero := if fields then "fields are numbered from 1" else "byte/character positions are numbered from 1"
    match cs with
    | '-' :: rest =>
      if st.dash then .error (if fields then "invalid field range" else "invalid byte or character range")
      else if st.lhs && st.value == 0 then .error zero
      else scanCutList fields rest
        { st with dash := true, initial := if st.lhs then st.value else 1, value := 0, digits := [] }
    | c :: rest =>
      if c == ',' || isBlankChar c then
        match closeItem st zero with
        | .error e => .error e
        | .ok ranges => scanCutList fields rest { ranges }
      else if c.isDigit then
        let value := 10 * st.value + (c.toNat - '0'.toNat)
        let digits := st.digits ++ [c]
        if value ≥ cutLimit then
          let shown := String.ofList (digits ++ rest.takeWhile Char.isDigit)
          .error ((if fields then "field number " else "byte/character offset ") ++ quoteText shown ++ " is too large")
        else scanCutList fields rest
          (if st.dash then { st with value, digits, rhs := true } else { st with value, digits, lhs := true })
      else .error ((if fields then "invalid field value " else "invalid byte/character position ") ++
        quoteText (String.ofList (c :: rest)))
    | [] => closeItem st zero
where
  /-- Ends the item being read, at a comma, a blank or the end. -/
  closeItem (st : CutScan) (zero : String) : Except String CutRanges :=
    if st.dash then
      if !st.lhs && !st.rhs then .error "invalid range with no endpoint: -"
      else if !st.rhs then .ok (st.ranges ++ [(st.initial, none)])
      else if st.value < st.initial then .error "invalid decreasing range"
      else .ok (st.ranges ++ [(st.initial, some st.value)])
    else if st.value == 0 then .error zero
    else .ok (st.ranges ++ [(st.value, some st.value)])

def endsBefore (hi : Option Nat) (k : Nat) : Bool := hi.any (· < k)

def mergeCutRanges (rs : CutRanges) : CutRanges :=
  let sorted := rs.mergeSort fun a b => a.1 ≤ b.1
  (sorted.foldl (fun (acc : CutRanges) (lo, hi) =>
    match acc with
    | (plo, phi) :: rest =>
      if !endsBefore phi lo then
        (plo, match phi, hi with
          | some x, some y => some (max x y)
          | _, _ => none) :: rest
      else (lo, hi) :: acc
    | [] => [(lo, hi)]) []).reverse

def complementRanges (rs : CutRanges) : CutRanges :=
  match rs with
  | [] => [(1, none)]
  | (lo, _) :: _ =>
    let before := if lo > 1 then [(1, some (lo - 1))] else []
    let gaps := (rs.zip rs.tail).filterMap fun ((_, hi), (lo, _)) =>
      match hi with
      | some h => if h + 1 == lo then none else some (h + 1, some (lo - 1))
      | none => none
    let after := match rs.getLast? with
      | some (_, some h) => if h < cutLimit then [(h + 1, none)] else []
      | _ => []
    before ++ gaps ++ after

def inRanges (rs : CutRanges) (i : Nat) : Bool :=
  rs.any fun (a, b) => a ≤ i && !endsBefore b i

def cutSyntax : OptionSyntax :=
  { flags := ['s', 'n', 'z', 'C'], valued := ['b', 'c', 'f', 'd', 'O'],
    long := [("bytes", 'b'), ("characters", 'c'), ("fields", 'f'), ("delimiter", 'd'),
             ("only-delimited", 's'), ("output-delimiter", 'O'), ("complement", 'C'),
             ("zero-terminated", 'z')] }

/-- What the options of `cut` ask for: fields or bytes, and the list. -/
structure CutRequest where
  fields : Bool := false
  list : Option String := none
  delim : Option Char := none

def cutLine (rs : CutRanges) (fields only : Bool) (d : Char) (outDelim : Option String) (line : String) :
    Option String :=
  if fields then
    if !line.contains d then (if only then none else some line)
    else
      let parts := line.splitOn (String.singleton d)
      some ((outDelim.getD (String.singleton d)).intercalate
        ((parts.zipIdx.filter fun (_, i) => inRanges rs (i + 1)).map (·.1)))
  else
    let kept := (line.toList.zipIdx.filter fun (_, i) => inRanges rs (i + 1)).map fun (c, i) => (c, i + 1)
    let starts := rs.map (·.1)
    some (String.join ((kept.zipIdx.map fun ((c, k), j) =>
      match outDelim with
      | some o => if j > 0 && starts.contains k then o ++ String.singleton c else String.singleton c
      | none => String.singleton c)))

def cutTool (t : ToolInput) (args : List String) : ToolOutcome :=
  let usage (msg : String) : ToolOutcome := t.fail ("cut: " ++ msg ++ "\n" ++ tryHelp "cut") 1
  match cutSyntax.read args with
  | .error e => t.fail (e.message "cut") 1
  | .ok o =>
    let request : Except String CutRequest := o.given.foldlM (fun (q : CutRequest) (c, v) =>
      match c with
      | 'b' | 'c' | 'f' =>
        if q.list.isSome then .error "only one type of list may be specified"
        else .ok { q with fields := c == 'f', list := some v }
      | 'd' =>
        if v.length > 1 then .error "the delimiter must be a single character"
        else .ok { q with delim := some (v.toList.headD (Char.ofNat 0)) }
      | _ => .ok q) ({} : CutRequest)
    match request with
    | .error e => usage e
    | .ok q =>
      match q.list with
      | none => usage "you must specify a list of bytes, characters, or fields"
      | some list =>
        if !q.fields && q.delim.isSome then
          usage "an input delimiter may be specified only when operating on fields"
        else if !q.fields && o.has 's' then
          usage "suppressing non-delimited lines makes sense\n\tonly when operating on fields"
        else
          match scanCutList q.fields list.toList {} with
          | .error e => usage e
          | .ok rs =>
            let rs := mergeCutRanges rs
            let rs := if o.has 'C' then complementRanges rs else rs
            let d := q.delim.getD '\t'
            let eol := if o.has 'z' then Char.ofNat 0 else '\n'
            let names := o.operandsOr "-"
            let r := names.foldl (fun (r : Report) n =>
              match t.source n with
              | .ok text =>
                r.say (String.join ((recordsOf eol text).filterMap fun l =>
                  (cutLine rs q.fields (o.has 's') d (o.last? 'O') l).map (· ++ String.singleton eol)))
              | .error why => r.warn ("cut: " ++ shownName n ++ ": " ++ why ++ "\n")) {}
            t.finish r

end Shell
end JuryCaptions
