import JuryCaptions.Shell.Utility
import JuryCaptions.Shell.Utility.Lines
import JuryCaptions.Shell.Format
import JuryCaptions.Number.Extended
/-!
`numfmt`: numbers in the fields of lines, or in the operands, read with or
without a unit suffix and written again, scaled to a unit suffix or plainly.
-/

namespace JuryCaptions
namespace Shell

inductive NumScale where
  | none
  | auto
  | si
  | iec
  | iecI
  deriving BEq, Inhabited

def NumScale.base : NumScale → Nat
  | .iec | .iecI => 1024
  | _ => 1000

inductive NumRound where
  | up
  | down
  | fromZero
  | towardsZero
  | nearest
  deriving BEq, Inhabited

/-- What `numfmt` does with a number that does not read. -/
inductive NumInvalid where
  | abort
  | fail
  | warn
  | ignore
  deriving BEq, Inhabited

structure NumfmtSettings where
  fromScale : NumScale := .none
  toScale : NumScale := .none
  fromUnit : Nat := 1
  toUnit : Nat := 1
  round : NumRound := .fromZero
  /-- The width of the output, none for the width the input keeps. -/
  width : Option Nat := none
  leftAlign : Bool := false
  zeroWidth : Nat := 0
  decimals : Option Nat := none
  /-- The text of the format before and after its conversion. -/
  lead : String := ""
  trail : String := ""
  unitSuffix : Option String := none
  fields : CutRanges := [(1, some 1)]
  delimiter : Option Char := none
  invalid : NumInvalid := .abort
  ending : Char := '\n'
  debug : Bool := false


def roundWhole (r : NumRound) (v : Extended) : Int :=
  let t := Extended.trunc v
  let ceil := if Extended.lt (Extended.ofInt t) v then t + 1 else t
  let floor := if Extended.lt v (Extended.ofInt t) then t - 1 else t
  let half := Extended.ofRatio false 1 2 0
  match r with
  | .up => ceil
  | .down => floor
  | .fromZero => if Extended.lt v (Extended.ofNat 0) then floor else ceil
  | .towardsZero => t
  | .nearest =>
    if Extended.lt v (Extended.ofNat 0) then Extended.trunc (Extended.sub v half)
    else Extended.trunc (Extended.add v half)

def simpleRound (r : NumRound) (v : Extended) : Extended :=
  let top := Extended.ofNat 9223372036854775807
  let q := Extended.trunc (Extended.div v top)
  let whole := Extended.mul top (Extended.ofInt q)
  Extended.add whole (Extended.ofInt (roundWhole r (Extended.sub v whole)))

def scaleDown (base : Extended) : Nat → Extended → Nat → Extended × Nat
  | 0, v, n => (v, n)
  | f + 1, v, n =>
    if Extended.ge (Extended.abs v) base then scaleDown base f (Extended.div v base) (n + 1) else (v, n)

/-! ## Reading numbers -/

inductive NumFault where
  | overflow
  | invalid
  | forbiddenSuffix
  | invalidSuffix
  | missingI
  deriving BEq, Inhabited

def NumFault.message (f : NumFault) (text : String) : String :=
  match f with
  | .overflow => "value too large to be converted: " ++ quoteText text
  | .invalid => "invalid number: " ++ quoteText text
  | .forbiddenSuffix => "rejecting suffix in input: " ++ quoteText text ++ " (consider using --from)"
  | .invalidSuffix => "invalid suffix in input: " ++ quoteText text
  | .missingI => "missing 'i' suffix in input: " ++ quoteText text ++ " (e.g Ki/Mi/Gi)"

/-- A whole number read: its value, whether a minus sign stood before it,
whether it has more digits than the format keeps, and the text after it. -/
structure WholeRead where
  value : Extended
  neg : Bool
  lossy : Bool
  rest : List Char

/-- Reads a minus sign and digits, `value · 10 + digit` each step; a number
needs a digit or a point after it, and at most 27 significant digits. -/
def readWholeDigits (cs : List Char) : Except NumFault WholeRead :=
  let (neg, body) := match cs with
    | '-' :: r => (true, r)
    | _ => (false, cs)
  let ds := body.takeWhile Char.isDigit
  let rest := body.drop ds.length
  let significant := (ds.dropWhile (· == '0')).length
  if significant > 27 then .error .overflow
  else if ds.isEmpty && rest.head? != some '.' then .error .invalid
  else
    let ten := Extended.ofNat 10
    let v := ds.foldl (fun v d => Extended.add (Extended.mul v ten) (Extended.ofNat (d.toNat - 48))) (Extended.ofNat 0)
    .ok ⟨if neg then Extended.negate v else v, neg, significant > 18, rest⟩

/-- A number read: its value, the decimals its text had, the text after it,
and whether it has more digits than the format keeps. -/
structure NumRead where
  value : Extended
  decimals : Nat
  rest : List Char
  lossy : Bool

def readDecimalNumber (cs : List Char) : Except NumFault NumRead := do
  let w ← readWholeDigits cs
  match w.rest with
  | '.' :: after =>
    let f ← readWholeDigits after
    if f.neg then throw .invalid
    let digits := after.length - f.rest.length
    let frac := Extended.div f.value (Extended.power (Extended.ofNat 10) digits)
    let v := if w.neg then Extended.sub w.value frac else Extended.add w.value frac
    return ⟨v, digits, f.rest, w.lossy || f.lossy⟩
  | _ => return ⟨w.value, 0, w.rest, w.lossy⟩

def suffixPower (c : Char) : Option Nat := ("KMGTPEZYRQ".toList.idxOf? c).map (· + 1)

def readHuman (scale : NumScale) (cs : List Char) : Except NumFault NumRead := do
  let r ← readDecimalNumber cs
  if r.rest.isEmpty then return r
  match r.rest.dropWhile isBlankChar with
  | [] => if scale == .none then throw .forbiddenSuffix else return { r with rest := [], decimals := 0 }
  | c :: more =>
    match suffixPower c with
    | none => throw .invalidSuffix
    | some p =>
      if scale == .none then throw .forbiddenSuffix
      let (base, more) ← match scale, more with
        | .auto, 'i' :: after => pure (1024, after)
        | .iecI, 'i' :: after => pure (1024, after)
        | .iecI, _ => throw NumFault.missingI
        | s, _ => pure (s.base, more)
      return ⟨Extended.mul r.value (Extended.power (Extended.ofNat base) p), 0, more, r.lossy⟩

/-! ## Writing numbers -/

def fixedText (zeroWidth decimals : Nat) (v : Extended) : String :=
  let sign := if v.neg then "-" else ""
  let digits := doubleDigits 'f' (some decimals) false v.magnitude
  if zeroWidth > 0 then sign ++ String.ofList (List.replicate (zeroWidth - (sign.length + digits.length)) '0') ++ digits
  else sign ++ digits

def generalText (v : Extended) : String := (if v.neg then "-" else "") ++ doubleDigits 'g' none false v.magnitude

def powerLetter (p : Nat) : String :=
  if p == 0 then "" else match "KMGTPEZYRQ".toList[p - 1]? with
    | some c => String.singleton c
    | none => "(error)"

namespace NumfmtSettings

def human (s : NumfmtSettings) (val : Extended) (decimals : Nat) : String :=
  match s.toScale with
  | .none =>
    let p := Extended.power (Extended.ofNat 10) decimals
    fixedText s.zeroWidth decimals (Extended.div (simpleRound s.round (Extended.mul val p)) p)
  | scale =>
    let base := Extended.ofNat scale.base
    let (v, power) := scaleDown base 20000 val 0
    let adjust := match s.decimals with
      | some d => min (3 * power) d
      | none => if Extended.lt (Extended.abs v) (Extended.ofNat 10) then 1 else 0
    let p := Extended.power (Extended.ofNat 10) adjust
    let v := Extended.div (simpleRound s.round (Extended.mul v p)) p
    let (v, power) := if Extended.ge (Extended.abs v) base then (Extended.div v base, power + 1) else (v, power)
    let point := !v.isZero && Extended.lt (Extended.abs v) (Extended.ofNat 10) && power > 0
    let prec := s.decimals.getD (if point then 1 else 0)
    fixedText s.zeroWidth prec v ++ powerLetter power ++ (if scale == .iecI && power > 0 then "i" else "")

def render (s : NumfmtSettings) (val : Extended) (decimals : Nat) (width : Nat) : Except String String :=
  let used := s.decimals.getD decimals
  let (_, tens) := scaleDown (Extended.ofNat 10) 20000 val 0
  if s.toScale == .none && tens + used > 18 then
    if used > 0 then
      .error ("value/precision too large to be printed: '" ++ generalText val ++ "/" ++ toString used ++
        "' (consider using --to)")
    else .error ("value too large to be printed: '" ++ generalText val ++ "' (consider using --to)")
  else if tens > 26 then
    .error ("value too large to be printed: '" ++ generalText val ++ "' (cannot handle values > 999Q)")
  else
    let text := s.human val used ++ s.unitSuffix.getD ""
    if text.length < width then
      let fill := String.ofList (List.replicate (width - text.length) ' ')
      .ok (if s.leftAlign then text ++ fill else fill ++ text)
    else .ok text

end NumfmtSettings

/-! ## Lines -/

/-- Where `numfmt` is: what it has written, whether every number read, and
whether a fault ended it. -/
structure NumfmtRun where
  report : Report := {}
  pending : String := ""
  valid : Bool := true
  halted : Bool := false

namespace NumfmtRun

def emit (r : NumfmtRun) (text : String) : NumfmtRun := { r with pending := r.pending ++ text }

def flushed (r : NumfmtRun) : Report := r.report.say r.pending

def note (r : NumfmtRun) (msg : String) : NumfmtRun :=
  { r with report := r.flushed.note ("numfmt: " ++ msg ++ "\n"), pending := "" }

def fault (r : NumfmtRun) (s : NumfmtSettings) (msg : String) : NumfmtRun :=
  let r := { r with valid := false }
  match s.invalid with
  | .ignore => r
  | .abort => { r.note msg with halted := true }
  | _ => r.note msg

end NumfmtRun

def NumfmtRun.keep (r : NumfmtRun) (text : String) : NumfmtRun := if r.halted then r else r.emit text

def numfmtField (s : NumfmtSettings) (r : NumfmtRun) (text : String) (field : Nat) : NumfmtRun :=
  if !inRanges s.fields field then r.emit text
  else
    let text := match s.unitSuffix with
      | some suf => if text.length > suf.length && text.endsWith suf then (text.dropEnd suf.length).toString else text
      | none => text
    let cs := text.toList
    let body := cs.dropWhile isBlankChar
    let width := match s.width with
      | some w => w
      | none =>
        if s.delimiter.isNone && (body.length < cs.length || field > 1) then text.length else 0
    let shown := String.ofList body
    match readHuman s.fromScale body with
    | .error f => (r.fault s (f.message shown)).keep text
    | .ok n =>
      let r := if n.lossy && s.debug then r.note ("large input value " ++ quoteText shown ++ ": possible precision loss")
        else r
      if !n.rest.isEmpty then
        (r.fault s ("invalid suffix in input " ++ quoteText shown ++ ": " ++ quoteText (String.ofList n.rest))).keep text
      else
        let v := if s.fromUnit != 1 || s.toUnit != 1 then
            Extended.div (Extended.mul n.value (Extended.ofNat s.fromUnit)) (Extended.ofNat s.toUnit)
          else n.value
        match s.render v n.decimals width with
        | .error msg => (r.fault s msg).keep text
        | .ok out => r.emit (s.lead ++ out ++ s.trail)

/-- The fields of a line: with the default delimiter each is the blanks before it and a
word, the single blank after it parting it from the next. -/
def numfmtFields (delimiter : Option Char) (line : List Char) : List String :=
  let rec go : Nat → List Char → List String
    | 0, cs => [String.ofList cs]
    | f + 1, cs =>
      let isSep (c : Char) : Bool := match delimiter with
        | some d => c == d
        | none => isBlankChar c || c == '\n'
      let lead := match delimiter with
        | some _ => []
        | none => cs.takeWhile isSep
      let after := cs.drop lead.length
      let word := after.takeWhile (!isSep ·)
      match after.drop word.length with
      | [] => [String.ofList (lead ++ word)]
      | _ :: more => String.ofList (lead ++ word) :: go f more
  go (line.length + 1) line

def numfmtLine (s : NumfmtSettings) (r : NumfmtRun) (line : String) (ended : Bool) : NumfmtRun :=
  let fields := numfmtFields s.delimiter line.toList
  let sep := String.singleton (s.delimiter.getD ' ')
  let r := fields.zipIdx.foldl (fun (r : NumfmtRun) (text, i) =>
    if r.halted then r
    else
      let r := numfmtField s r text (i + 1)
      if i + 1 < fields.length && !r.halted then r.emit sep else r) r
  if ended && !r.halted then r.emit (String.singleton s.ending) else r

/-! ## Options -/

def numfmtSyntax : OptionSyntax :=
  { flags := ['z', longOnly 8, longOnly 9], valued := ['d', longOnly 1, longOnly 2, longOnly 3, longOnly 4,
      longOnly 5, longOnly 6, longOnly 7, longOnly 11, longOnly 12, longOnly 13],
    optional := [longOnly 10],
    long := [("from", longOnly 1), ("from-unit", longOnly 2), ("to", longOnly 3), ("to-unit", longOnly 4),
             ("round", longOnly 5), ("padding", longOnly 6), ("suffix", longOnly 7), ("grouping", longOnly 8),
             ("delimiter", 'd'), ("field", longOnly 11), ("debug", longOnly 9), ("header", longOnly 10),
             ("format", longOnly 12), ("invalid", longOnly 13), ("zero-terminated", 'z')] }

def NumScale.ofName : String → NumScale
  | "auto" => .auto
  | "si" => .si
  | "iec" => .iec
  | "iec-i" => .iecI
  | _ => .none

def NumRound.ofName : String → NumRound
  | "up" => .up
  | "down" => .down
  | "towards-zero" => .towardsZero
  | "nearest" => .nearest
  | _ => .fromZero

def NumInvalid.ofName : String → NumInvalid
  | "fail" => .fail
  | "warn" => .warn
  | "ignore" => .ignore
  | _ => .abort

def readUnitSize (v : String) : Except String Nat :=
  let cs := v.toList
  let (text, units) :=
    match cs.getLast? with
    | some c =>
      if c.isDigit then (v, "KMGTPEZYRQ")
      else if c == 'i' && cs.length ≥ 2 && !(cs.getD (cs.length - 2) '0').isDigit then
        (String.ofList cs.dropLast, "KMGTPEZYRQ")
      else (v ++ "B", "KMGTPEZYRQ0")
    | none => (v, "KMGTPEZYRQ")
  match readAmount text false units with
  | .ok n => if n == 0 then .error ("numfmt: invalid unit size: " ++ quoteText v ++ "\n") else .ok n.toNat
  | .error _ => .error ("numfmt: invalid unit size: " ++ quoteText v ++ "\n")

/-- The parts of a format: the text before the conversion, its flags, width
and decimals, and the text after; or the message of a malformed one. -/
def readNumFormat (s : NumfmtSettings) (fmt : String) : Except String NumfmtSettings := do
  let cs := fmt.toList
  let bad (msg : String) : Except String NumfmtSettings := .error ("numfmt: " ++ msg ++ "\n")
  let rec before : Nat → List Char → Nat → Option (Nat × List Char)
    | 0, _, _ => none
    | _ + 1, [], _ => none
    | f + 1, '%' :: '%' :: rest, n => before f rest (n + 1)
    | _ + 1, '%' :: rest, n => some (n, rest)
    | f + 1, _ :: rest, n => before f rest (n + 1)
  match before (cs.length + 1) cs 0 with
  | none => bad ("format " ++ quoteText fmt ++ " has no % directive")
  | some (leadCount, rest) =>
    let rec flags : Nat → List Char → Bool → List Char × Bool
      | 0, cs, z => (cs, z)
      | f + 1, cs, z =>
        let spaces := cs.takeWhile (· == ' ')
        let cs := cs.drop spaces.length
        match cs with
        | '\'' :: more => flags f more z
        | '0' :: more => flags f more true
        | _ => if spaces.isEmpty then (cs, z) else flags f cs z
    let (rest, zero) := flags (rest.length + 1) rest false
    let blank := rest.takeWhile isSpaceChar
    let afterBlank := rest.drop blank.length
    let (neg, signed) := NumberText.takeSign afterBlank
    let ds := signed.takeWhile Char.isDigit
    let (pad, rest) : Int × List Char :=
      if ds.isEmpty then (0, rest)
      else
        let n : Int := ds.foldl (fun n d => 10 * n + (d.toNat - 48)) 0
        (if neg then -n else n, signed.drop ds.length)
    if pad > 9223372036854775807 || pad < -9223372036854775807 then
      bad ("invalid format " ++ quoteText fmt ++ " (width overflow)")
    else
      let s := if pad < 0 then { s with leftAlign := true, width := some pad.natAbs }
        else if pad > 0 then (if zero then { s with zeroWidth := pad.toNat } else { s with width := some pad.toNat })
        else s
      if rest.isEmpty then bad ("format " ++ quoteText fmt ++ " ends in %")
      else
        let decimals : Except String (Option Nat × List Char) := match rest with
          | '.' :: more =>
            let ds := more.takeWhile Char.isDigit
            match more.head? with
            | some c =>
              if isBlankChar c || c == '+' || c == '-' then .error ("invalid precision in format " ++ quoteText fmt)
              else .ok (some (ds.foldl (fun n d => 10 * n + (d.toNat - 48)) 0), more.drop ds.length)
            | none => .ok (some 0, [])
          | _ => .ok (none, rest)
        match decimals with
        | .error e => bad e
        | .ok (decimals, rest) =>
          match rest with
          | 'f' :: after =>
            let rec lone : Nat → List Char → Bool
              | 0, _ => false
              | _ + 1, [] => false
              | f + 1, '%' :: '%' :: more => lone f more
              | _ + 1, '%' :: _ => true
              | f + 1, _ :: more => lone f more
            if lone (after.length + 1) after then bad ("format " ++ quoteText fmt ++ " has too many % directives")
            else
              let s := match decimals with
                | some d => { s with decimals := some d }
                | none => s
              return { s with lead := String.ofList (cs.take leadCount), trail := String.ofList after }
          | _ =>
            bad ("invalid format " ++ quoteText fmt ++ ", directive must be %[0]['][-][N][.][N]f")

def numfmtSettingsOf (o : ReadOptions) : Except String (NumfmtSettings × Nat) := do
  let step := fun (acc : NumfmtSettings × Nat × Bool) ((c, v) : Char × String) => do
    let (s, header, fieldsSet) := acc
    if c == longOnly 1 then
      let name ← readMethod "numfmt" "from" ["none", "auto", "si", "iec", "iec-i"] v
      return ({ s with fromScale := NumScale.ofName name }, header, fieldsSet)
    else if c == longOnly 3 then
      let name ← readMethod "numfmt" "to" ["none", "si", "iec", "iec-i"] v
      return ({ s with toScale := NumScale.ofName name }, header, fieldsSet)
    else if c == longOnly 2 then
      let n ← readUnitSize v
      return ({ s with fromUnit := n }, header, fieldsSet)
    else if c == longOnly 4 then
      let n ← readUnitSize v
      return ({ s with toUnit := n }, header, fieldsSet)
    else if c == longOnly 5 then
      let name ← readMethod "numfmt" "round" ["up", "down", "from-zero", "towards-zero", "nearest"] v
      return ({ s with round := NumRound.ofName name }, header, fieldsSet)
    else if c == longOnly 13 then
      let name ← readMethod "numfmt" "invalid" ["abort", "fail", "warn", "ignore"] v
      return ({ s with invalid := NumInvalid.ofName name }, header, fieldsSet)
    else if c == longOnly 6 then
      match readAmount v true "" with
      | .ok n =>
        if n == 0 then throw ("numfmt: invalid padding value " ++ quoteText v ++ "\n")
        else if n < 0 then return ({ s with width := some n.natAbs, leftAlign := true }, header, fieldsSet)
        else return ({ s with width := some n.toNat, leftAlign := false }, header, fieldsSet)
      | .error _ => throw ("numfmt: invalid padding value " ++ quoteText v ++ "\n")
    else if c == longOnly 7 then return ({ s with unitSuffix := some v }, header, fieldsSet)
    else if c == 'd' then
      match v.toList with
      | [d] => return ({ s with delimiter := some d }, header, fieldsSet)
      | [] => return ({ s with delimiter := some '\x00' }, header, fieldsSet)
      | _ => throw "numfmt: the delimiter must be a single character\n"
    else if c == longOnly 11 then
      if fieldsSet then throw "numfmt: multiple field specifications\n"
      else if v == "-" then return ({ s with fields := [(1, none)] }, header, true)
      else
        match scanCutList true v.toList {} with
        | .ok rs => return ({ s with fields := rs }, header, true)
        | .error e => throw ("numfmt: " ++ e ++ "\n" ++ tryHelp "numfmt")
    else if c == longOnly 10 then
      if v.isEmpty then return (s, 1, fieldsSet)
      else
        match readAmount v false "" with
        | .ok n =>
          if n == 0 then throw ("numfmt: invalid header value " ++ quoteText v ++ "\n")
          else return (s, n.toNat, fieldsSet)
        | .error _ => throw ("numfmt: invalid header value " ++ quoteText v ++ "\n")
    else if c == 'z' then return ({ s with ending := '\x00' }, header, fieldsSet)
    else if c == longOnly 9 then return ({ s with debug := true }, header, fieldsSet)
    else return (s, header, fieldsSet)
  let (s, header, _) ← o.given.foldlM step (({} : NumfmtSettings), 0, false)
  let format := o.last? (longOnly 12)
  let grouping := o.has (longOnly 8)
  if format.isSome && grouping then throw "numfmt: --grouping cannot be combined with --format\n"
  let s ← match format with
    | some f => readNumFormat s f
    | none => pure s
  if grouping && s.toScale != .none then throw "numfmt: grouping cannot be combined with --to\n"
  return (s, header)

def numfmtTool (t : ToolInput) (args : List String) : ToolOutcome :=
  match numfmtSyntax.read args with
  | .error e => t.fail (e.message "numfmt") 1
  | .ok o =>
    match numfmtSettingsOf o with
    | .error e => t.fail e 1
    | .ok (s, header) =>
      let quietly := s.fromScale == .none && s.toScale == .none && !o.has (longOnly 8) && s.width.isNone &&
        !o.has (longOnly 12)
      let r : NumfmtRun := if s.debug && quietly then ({} : NumfmtRun).note "no conversion option specified" else {}
      let r :=
        if !o.operands.isEmpty then
          let r := if s.debug && header > 0 then r.note "--header ignored with command-line input" else r
          o.operands.foldl (fun r a => if r.halted then r else numfmtLine s r a true) r
        else
          let lines := recordsOf s.ending t.input
          let endsOpen := !t.input.isEmpty && !t.input.endsWith (String.singleton s.ending)
          let r := (lines.take header).foldl (fun r l => r.emit (l ++ String.singleton s.ending)) r
          let body := lines.drop header
          let count := body.length
          body.zipIdx.foldl (fun r (l, i) =>
            if r.halted then r else numfmtLine s r l (!(endsOpen && i + 1 == count))) r
      if r.halted then { writes := r.flushed.writes, status := 2, files := t.files }
      else
        let r := if s.debug && !r.valid then r.note "failed to convert some of the input numbers" else r
        let status := if !r.valid && (s.invalid == .abort || s.invalid == .fail) then 2 else 0
        { writes := r.flushed.writes, status, files := t.files }

end Shell
end JuryCaptions
