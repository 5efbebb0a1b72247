import JuryCaptions.Shell.Utility
import JuryCaptions.Shell.Format
import JuryCaptions.Number.Extended
/-!
Counting: `seq FIRST STEP LAST`, `seq FIRST LAST` and `seq LAST`, the first
and the step 1 when not given.
-/

namespace JuryCaptions
namespace Shell

/-- A number as `seq` reads it: its value, the digits after the point its text
asks for (none for hexadecimal), its width, and its value when all digits. -/
structure SeqNumber where
  value : Extended
  precision : Option Nat
  width : Int
  plain : Option Nat := none
  deriving Inhabited

/-- An operand of `seq`: a number, or an infinity with its sign. -/
inductive SeqOperand where
  | number (n : SeqNumber)
  | infinity (neg : Bool)
  deriving Inhabited

def decimalDigits (ds : List Char) : Nat := ds.foldl (fun n d => 10 * n + (d.toNat - '0'.toNat)) 0

def hexDigits (ds : List Char) : Nat :=
  ds.foldl (fun n d =>
    let v := if d.isDigit then d.toNat - '0'.toNat else (d.toLower.toNat - 'a'.toNat) + 10
    16 * n + v) 0

def isHexChar (c : Char) : Bool := c.isDigit || ('a' ≤ c.toLower && c.toLower ≤ 'f')

def exponentCap : Nat := 99999

def readPowerDigits (cs : List Char) : Option Int :=
  let (neg, ds) := match cs with
    | '-' :: r => (true, r)
    | '+' :: r => (false, r)
    | r => (false, r)
  if ds.isEmpty || !ds.all Char.isDigit then none
  else
    let x : Int := min (decimalDigits ds) exponentCap
    some (if neg then -x else x)

/-- Reads a hexadecimal number after `0x`: digits, a fraction after a point and
a power of two after `p`; none unless all the text is read. -/
def readHexNumber (neg : Bool) (body : List Char) : Option SeqNumber :=
  let whole := body.takeWhile isHexChar
  let rest := body.drop whole.length
  let (frac, rest) := match rest with
    | '.' :: more => (more.takeWhile isHexChar, more.dropWhile isHexChar)
    | _ => ([], rest)
  let expo : Option Int := match rest with
    | [] => some 0
    | p :: more => if p == 'p' || p == 'P' then readPowerDigits more else none
  if whole.isEmpty && frac.isEmpty then none
  else expo.map fun e =>
    { value := Extended.ofScaled neg (hexDigits (whole ++ frac)) (e - 4 * frac.length),
      precision := none, width := 0 }

def inRange (x : Extended) : Option Extended :=
  if !x.fits then none
  else if x.isZero || x.exp + 63 ≥ -16382 then some x
  else if x.exp + 63 < -16446 || (x.exp + 63 = -16446 && x.mant == Extended.least) then some { neg := x.neg }
  else none

def readSeqOperand (s : String) : Except String SeqOperand :=
  let invalid : Except String SeqOperand := .error ("invalid floating point argument: " ++ quoteText s)
  let cs := s.toList.dropWhile isSpaceChar
  let (neg, body) := match cs with
    | '-' :: rest => (true, rest)
    | '+' :: rest => (false, rest)
    | _ => (false, cs)
  let lower := String.ofList (body.map Char.toLower)
  let plain := if !s.isEmpty && s.all Char.isDigit then some (decimalDigits s.toList) else none
  let number (n : Option SeqNumber) : Except String SeqOperand :=
    match n with
    | some n => match inRange n.value with
      | some v => .ok (.number { n with value := v, plain })
      | none => invalid
    | none => invalid
  if lower == "inf" || lower == "infinity" then .ok (.infinity neg)
  else if lower == "nan" || (lower.startsWith "nan(" && lower.endsWith ")") then
    .error ("invalid " ++ quoteText "not-a-number" ++ " argument: " ++ quoteText s)
  else
    match body with
    | '0' :: x :: hex =>
      if x == 'x' || x == 'X' then number (readHexNumber neg hex) else number (readSeqNumber cs)
    | _ => number (readSeqNumber cs)
where
  /-- Reads a decimal operand, with a sign, a point and an exponent. -/
  readSeqNumber (cs : List Char) : Option SeqNumber :=
    let (neg, body) := match cs with
      | '-' :: rest => (true, rest)
      | '+' :: rest => (false, rest)
      | _ => (false, cs)
    let shown := (cs.dropWhile (· == '+'))
    let whole := body.takeWhile Char.isDigit
    let afterWhole := body.drop whole.length
    let (point, frac, afterFrac) := match afterWhole with
      | '.' :: more =>
        let f := more.takeWhile Char.isDigit
        (true, f, more.drop f.length)
      | _ => (false, [], afterWhole)
    let expo : Option (Option Int × Nat) := match afterFrac with
      | [] => some (none, 0)
      | c :: more =>
        if c == 'e' || c == 'E' then (readPowerDigits more).map fun x => (some x, afterFrac.length)
        else none
    if whole.isEmpty && frac.isEmpty then none
    else match expo with
      | none => none
      | some (e, tail) =>
        let x := e.getD 0
        let value := Extended.ofDecimal neg (decimalDigits (whole ++ frac)) (x - frac.length)
        let precision := (if point then frac.length else 0) + (if x < 0 then x.natAbs else 0)
        let width : Int := shown.length +
          (if point then (if frac.isEmpty then -1 else if whole.isEmpty then 1 else 0) else 0)
        let width := match e with
          | none => width
          | some x =>
            let width := width - tail
            if x < 0 then
              (if point then (if frac.isEmpty then width + 1 else width) else width + 1) + x.natAbs
            else
              (if point && precision == 0 && x != 0 then width - 1 else width) + (x - (min frac.length x.toNat : Nat))
        some { value, precision := some precision, width }

/-- A value `seq` counts with: a finite number of the extended format, an
infinity with its sign, or the undefined sum of two opposite infinities. -/
inductive SeqValue where
  | finite (x : Extended)
  | infinite (neg : Bool)
  | undefined
  deriving Inhabited

namespace SeqValue

def add : SeqValue → SeqValue → SeqValue
  | .finite x, .finite y => .finite (x.add y)
  | .infinite a, .infinite b => if a == b then .infinite a else .undefined
  | .infinite a, .finite _ => .infinite a
  | .finite _, .infinite b => .infinite b
  | _, _ => .undefined

def times (i : Nat) : SeqValue → SeqValue
  | .finite x => .finite ((Extended.ofInt i).mul x)
  | v => v

def lt : SeqValue → SeqValue → Bool
  | .finite x, .finite y => x.lt y
  | .infinite a, .infinite b => a && !b
  | .infinite a, .finite _ => a
  | .finite _, .infinite b => !b
  | _, _ => false

def isNegative : SeqValue → Bool
  | .finite x => x.neg && !x.isZero
  | .infinite a => a
  | .undefined => false

end SeqValue

def SeqOperand.value : SeqOperand → SeqValue
  | .number n => .finite n.value
  | .infinity neg => .infinite neg

def readsAs (text : String) (v : SeqValue) : Bool :=
  match readSeqOperand text, v with
  | .ok (.number n), .finite x => n.value.same x
  | .ok (.infinity a), .infinite b => a == b
  | _, _ => false

/-- The texts `seq` writes after `shown`, the `i`-th number next: the first plus
`i` steps. -/
def countOn (first step last : SeqValue) (render : SeqValue → String) :
    Nat → Nat → String → List String → List String
  | 0, _, shown, acc => (shown :: acc).reverse
  | fuel + 1, i, shown, acc =>
    let x := first.add (step.times i)
    let past := if step.isNegative then x.lt last else last.lt x
    let text := render x
    if !past then countOn first step last render fuel (i + 1) text (shown :: acc)
    else if readsAs text last && text != shown then (text :: shown :: acc).reverse
    else (shown :: acc).reverse

def countBound (first step last : Extended) : Nat :=
  let e := min first.exp (min step.exp last.exp)
  let (f, d, l) := (first.scaledTo e, step.scaledTo e, last.scaledTo e)
  let span := (l - f).natAbs
  let size := max f.natAbs l.natAbs + span
  (span + size / Nat.pow 2 62 + 1) / max d.natAbs 1 + 3

def wholeCount (a b step : Nat) : List String :=
  if b < a then [] else (List.range ((b - a) / max step 1 + 1)).map fun i => toString (a + i * step)

/-- A format of `-f`: the text before the conversion, the conversion, and the
text after it, each `%%` already a percent sign. -/
structure SeqFormat where
  before : String
  spec : Spec
  conv : Char
  after : String

def seqFormatText (stopAt : Bool) : List Char → Except Unit (String × List Char)
  | [] => .ok ("", [])
  | '%' :: '%' :: rest => do
    let (t, more) ← seqFormatText stopAt rest
    return ("%" ++ t, more)
  | '%' :: rest => if stopAt then .ok ("", '%' :: rest) else .error ()
  | c :: rest => do
    let (t, more) ← seqFormatText stopAt rest
    return (String.singleton c ++ t, more)

def readSeqFormat (fmt : String) : Except String SeqFormat :=
  let named := "format " ++ quoteText fmt
  match seqFormatText true fmt.toList with
  | .error _ | .ok (_, []) => .error (named ++ " has no % directive")
  | .ok (before, _ :: cs) =>
    let flags := cs.takeWhile fun c => "-+#0 '".toList.contains c
    let cs := cs.drop flags.length
    let ws := cs.takeWhile Char.isDigit
    let cs := cs.drop ws.length
    let (precision, cs) := match cs with
      | '.' :: more =>
        let ps := more.takeWhile Char.isDigit
        (some (decimalDigits ps), more.drop ps.length)
      | _ => (none, cs)
    let cs := match cs with
      | 'L' :: more => more
      | _ => cs
    match cs with
    | [] => .error (named ++ " ends in %")
    | c :: rest =>
      if !"efgaEFGA".toList.contains c then
        .error (named ++ " has unknown %" ++ String.singleton c ++ " directive")
      else match seqFormatText false rest with
        | .error _ => .error (named ++ " has too many % directives")
        | .ok (after, _) =>
          .ok { before, spec := { flags, width := decimalDigits ws, precision }, conv := c, after }

def seqConversion (sp : Spec) (conv : Char) : SeqValue → String
  | .finite x => sp.finiteExtended conv x
  | .infinite neg => sp.pad (sp.signOf neg ++ (if conv.isUpper then "INF" else "inf"))
  | .undefined => sp.pad (if conv.isUpper then "-NAN" else "-nan")

def seqSyntax : OptionSyntax :=
  { flags := ['w'], valued := ['f', 's'],
    long := [("format", 'f'), ("separator", 's'), ("equal-width", 'w')],
    inOrder := true, numbers := true }

def seqTool (t : ToolInput) (args : List String) : ToolOutcome :=
  let usage (msg : String) := t.fail ("seq: " ++ msg ++ "\n" ++ tryHelp "seq") 1
  match seqSyntax.read args with
  | .error e => t.fail (e.message "seq") 1
  | .ok o =>
    let ops := o.operands
    if ops.isEmpty then usage "missing operand"
    else if ops.length > 3 then usage ("extra operand " ++ quoteText (ops.getD 3 ""))
    else
      let format : Except String (Option SeqFormat) := match o.last? 'f' with
        | some f => (readSeqFormat f).map some
        | none => .ok none
      match format with
      | .error e => t.fail ("seq: " ++ e ++ "\n") 1
      | .ok format =>
        if format.isSome && o.has 'w' then
          usage "format string may not be specified when printing equal width strings"
        else
          let one : SeqOperand := .number { value := Extended.ofInt 1, precision := some 0, width := 1, plain := some 1 }
          let numbers : Except String (SeqOperand × SeqOperand × SeqOperand) := match ops with
            | [l] => do return (one, one, ← readSeqOperand l)
            | [f, l] => do return (← readSeqOperand f, one, ← readSeqOperand l)
            | [f, s, l] => do
              let first ← readSeqOperand f
              let step ← readSeqOperand s
              let zero := match step with
                | .number n => n.value.isZero
                | .infinity _ => false
              if zero then throw ("invalid Zero increment value: " ++ quoteText s)
              return (first, step, ← readSeqOperand l)
            | _ => .error "missing operand"
          match numbers with
          | .error e => usage e
          | .ok (first, step, last) =>
            let sep := (o.last? 's').getD "\n"
            let numberOr (o : SeqOperand) : SeqNumber := match o with
              | .number n => n
              | .infinity _ => { value := {}, precision := none, width := 0 }
            let (f, d, l) := (numberOr first, numberOr step, numberOr last)
            let plainStyle := format.isNone && !o.has 'w' && sep.utf8ByteSize == 1
            let wholeStep : Option Nat := match d.value.whole? with
              | some k => if 0 < k && k ≤ 200 then some k.toNat else none
              | none => none
            let written (texts : List String) : ToolOutcome :=
              if texts.isEmpty then t.done "" else t.done (sep.intercalate texts ++ "\n")
            let plainCount : Option (List String) :=
              match plainStyle, f.plain, d.plain, l.plain, wholeStep with
              | true, some a, some _, some b, some k => some (wholeCount a b k)
              | _, _, _, _, _ => none
            let wholeCountOf : Option (List String) :=
              match plainStyle, first, last, f.precision, d.precision, l.precision, wholeStep with
              | true, .number _, .number _, some 0, some 0, some 0, some k =>
                match f.value.whole?, l.value.whole? with
                | some a, some b =>
                  if f.value.neg || l.value.neg then none else some (wholeCount a.toNat b.toNat k)
                | _, _ => none
              | _, _, _, _, _, _, _ => none
            match plainCount.orElse (fun _ => wholeCountOf) with
            | some texts => written texts
            | none =>
              let prec : Option Nat := match f.precision, d.precision, l.precision with
                | some a, some b, some _ => some (max a b)
                | _, _, _ => none
              let spec : Spec := match prec with
                | none => {}
                | some prec =>
                  if o.has 'w' then
                    let fp := f.precision.getD 0
                    let lp := l.precision.getD 0
                    let fw := f.width + (prec - fp : Nat) + (if fp == 0 && prec > 0 then 1 else 0)
                    let lw := l.width + ((prec : Int) - lp) + (if lp > 0 && prec == 0 then -1 else 0) +
                      (if lp == 0 && prec > 0 then 1 else 0)
                    { flags := ['0'], width := (max fw lw).toNat, precision := some prec }
                  else { precision := some prec }
              let conv := if prec.isNone then 'g' else 'f'
              let render (v : SeqValue) : String := match format with
                | some fm => seqConversion fm.spec fm.conv v
                | none => seqConversion spec conv v
              let (a, dd, z) := (first.value, step.value, last.value)
              let past := if dd.isNegative then a.lt z else z.lt a
              let endless := 10000
              let fuel := match first, step, last with
                | .number f, .number d, .number l => countBound f.value d.value l.value
                | _, _, _ => endless - 1
              let texts := if past then [] else countOn a dd z render fuel 1 (render a) []
              let texts := match format with
                | some fm => texts.map fun x => fm.before ++ x ++ fm.after
                | none => texts
              written texts

def yesLimit : Nat := 1048576

def yesTool (t : ToolInput) (args : List String) : ToolOutcome :=
  let args := match args with
    | "--" :: rest => rest
    | _ => args
  let line := (if args.isEmpty then "y" else " ".intercalate args) ++ "\n"
  t.done (String.join (List.replicate (yesLimit / line.length + 1) line))

end Shell
end JuryCaptions
