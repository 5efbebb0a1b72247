import JuryCaptions.Shell.Arith
import JuryCaptions.Number.Read
import JuryCaptions.Number.Extended
/-!
The text of `echo` and `printf`, with backslash escapes `\a \b \f \n \r \t \v \\`
and octal `\NNN` replaced; an unknown escape stays.
-/

namespace JuryCaptions
namespace Shell

def isOctal (c : Char) : Bool := '0' ≤ c && c ≤ '7'

def octalValue (ds : List Char) : Nat := ds.foldl (fun n d => 8 * n + (d.toNat - '0'.toNat)) 0

def byteChar (n : Nat) : String := String.singleton (Char.ofNat (n % 256))

def formatEscape (cs : List Char) : String × List Char :=
  match cs with
  | '\\' :: rest => ("\\", rest)
  | 'a' :: rest => ("\x07", rest)
  | 'b' :: rest => ("\x08", rest)
  | 'e' :: rest => ("\x1b", rest)
  | 'f' :: rest => ("\x0c", rest)
  | 'n' :: rest => ("\n", rest)
  | 'r' :: rest => ("\r", rest)
  | 't' :: rest => ("\t", rest)
  | 'v' :: rest => ("\x0b", rest)
  | _ =>
    let ds := (cs.takeWhile isOctal).take 3
    if ds.isEmpty then ("\\", cs) else (byteChar (octalValue ds), cs.drop ds.length)

def escapedText : Nat → List Char → String × Bool
  | 0, _ => ("", false)
  | _ + 1, [] => ("", false)
  | _ + 1, '\\' :: 'c' :: _ => ("", true)
  | f + 1, '\\' :: '0' :: rest =>
    let ds := (rest.takeWhile isOctal).take 3
    let (t, cut) := escapedText f (rest.drop ds.length)
    (byteChar (octalValue ds) ++ t, cut)
  | f + 1, '\\' :: rest =>
    let (e, more) := formatEscape rest
    let (t, cut) := escapedText f more
    (e ++ t, cut)
  | f + 1, c :: rest =>
    let (t, cut) := escapedText f rest
    (String.singleton c ++ t, cut)

def echoText (args : List String) : String :=
  let (noNewline, args) := match args with
    | "-n" :: rest => (true, rest)
    | _ => (false, args)
  let s := " ".intercalate args
  let (t, cut) := escapedText (s.length + 1) s.toList
  t ++ if noNewline || cut then "" else "\n"

def systemEchoText : Nat → List Char → String × Bool
  | 0, _ => ("", false)
  | _ + 1, [] => ("", false)
  | _ + 1, '\\' :: 'c' :: _ => ("", true)
  | f + 1, '\\' :: 'x' :: rest =>
    let ds := (rest.takeWhile fun c => (digitIn 16 c).isSome).take 2
    let (t, cut) := systemEchoText f (rest.drop ds.length)
    if ds.isEmpty then ("\\x" ++ t, cut)
    else (byteChar (ds.foldl (fun n d => 16 * n + (digitIn 16 d).getD 0) 0) ++ t, cut)
  | f + 1, '\\' :: '0' :: rest =>
    let ds := (rest.takeWhile isOctal).take 3
    let (t, cut) := systemEchoText f (rest.drop ds.length)
    (byteChar (octalValue ds) ++ t, cut)
  | f + 1, '\\' :: rest =>
    let (e, more) := formatEscape rest
    let (t, cut) := systemEchoText f more
    (e ++ t, cut)
  | f + 1, c :: rest =>
    let (t, cut) := systemEchoText f rest
    (String.singleton c ++ t, cut)

/-- Reads unsigned digits, their base told by a prefix as `0x` or `0`: the
exact value and what follows, or `none` when no digit is read. -/
def readDigits (cs : List Char) : Option (Nat × List Char) :=
  let value (base : Nat) (ds : List Char) : Nat := ds.foldl (fun n d => base * n + ((digitIn base d).getD 0)) 0
  match cs with
  | '0' :: x :: rest =>
    if (x = 'x' ∨ x = 'X') ∧ (rest.head?.bind (digitIn 16)).isSome then
      let ds := rest.takeWhile fun c => (digitIn 16 c).isSome
      some (value 16 ds, rest.drop ds.length)
    else
      let ds := (x :: rest).takeWhile isOctal
      some (value 8 ds, (x :: rest).drop ds.length)
  | c :: _ =>
    if c.isDigit then
      let ds := cs.takeWhile Char.isDigit
      some (value 10 ds, cs.drop ds.length)
    else none
  | [] => none

/-- A number of a conversion with its sign, held to 64 bits, and whether it had
to be: the unsigned conversions take a negative one modulo `2^64`. -/
def clampNumber (unsigned neg : Bool) (v : Nat) : Int × Bool :=
  if unsigned then
    if v > 18446744073709551615 then (18446744073709551615, true)
    else if neg && v != 0 then (18446744073709551616 - v, false) else (v, false)
  else if neg then
    if v > 9223372036854775808 then (-9223372036854775808, true) else (-(v : Int), false)
  else if v > 9223372036854775807 then (9223372036854775807, true) else (v, false)

/-- Reads an integer argument of `printf`, `unsigned` for the unsigned
conversions: the value and the warning, if the argument is not a number. -/
def printfNumber (unsigned : Bool) (arg : String) : Int × Option String :=
  match arg.toList with
  | q :: rest =>
    if q = '\'' ∨ q = '"' then ((rest.head?.map Char.toNat).getD 0, none)
    else
      let cs := (q :: rest).dropWhile isNumberBlank
      let (neg, body) := NumberText.takeSign cs
      match readDigits body with
      | none => (0, some (arg ++ ": expected numeric value"))
      | some (v, after) =>
        let (value, overflow) := clampNumber unsigned neg v
        if !after.isEmpty then (value, some (arg ++ ": not completely converted"))
        else if overflow then (value, some (arg ++ ": Numerical result out of range"))
        else (value, none)
  | [] => (0, none)

/-- A double by its fields: the sign, the exponent field and the fraction
field. Kept apart from a `Float` so that the sign of a not-a-number stays. -/
structure DoubleFields where
  neg : Bool
  biased : Nat
  fraction : Nat
  deriving Inhabited, BEq

def DoubleFields.zero : DoubleFields := ⟨false, 0, 0⟩

def DoubleFields.ofFloat (x : Float) : DoubleFields :=
  let (neg, biased, fraction) := Decimal.fields x
  ⟨neg, biased, fraction⟩

def readDouble (arg : List Char) : Option (DoubleFields × Bool × List Char) :=
  let cs := arg.dropWhile isNumberBlank
  let (neg, body) := NumberText.takeSign cs
  let signed (x : Float) : DoubleFields := let f := DoubleFields.ofFloat x; { f with neg := neg }
  let word (w : String) : Bool := NumberText.commonPrefixIgnoreCase body w.toList == w.length
  if word "infinity" then some (⟨neg, 2047, 0⟩, false, body.drop 8)
  else if word "inf" then some (⟨neg, 2047, 0⟩, false, body.drop 3)
  else if word "nan" then some (⟨neg, 2047, 2251799813685248⟩, false, body.drop 3)
  else
    let digitsIn (base : Nat) (xs : List Char) : List Char := xs.takeWhile fun c => (digitIn base c).isSome
    let value (base : Nat) (ds : List Char) : Nat := ds.foldl (fun n d => base * n + ((digitIn base d).getD 0)) 0
    let hex := match body with
      | '0' :: x :: r => (x == 'x' || x == 'X') &&
        ((digitIn 16 (r.headD ' ')).isSome || (r.headD ' ' == '.' && (digitIn 16 ((r.drop 1).headD ' ')).isSome))
      | _ => false
    let base := if hex then 16 else 10
    let body := if hex then body.drop 2 else body
    let whole := digitsIn base body
    let rest := body.drop whole.length
    let (frac, rest) := match rest with
      | '.' :: r => let f := digitsIn base r; (f, r.drop f.length)
      | _ => ([], rest)
    if whole.isEmpty && frac.isEmpty then none
    else
      let mant := value base (whole ++ frac)
      let expChar := if hex then 'p' else 'e'
      let (exp, rest) : Int × List Char := match rest with
        | c :: r =>
          if c.toLower == expChar then
            let (eneg, er) := match r with
              | '-' :: t => (true, t)
              | '+' :: t => (false, t)
              | t => (false, t)
            let ds := er.takeWhile Char.isDigit
            if ds.isEmpty then (0, rest)
            else
              let v : Int := value 10 ds
              (if eneg then -v else v, er.drop ds.length)
          else (0, rest)
        | [] => (0, rest)
      let (x, tooLarge) := if hex then NumberText.ofBinary mant (exp - 4 * frac.length)
        else NumberText.ofDecimal mant (exp - frac.length)
      let (_, biased, fraction) := Decimal.fields x
      let tiny := mant != 0 && biased == 0 && (!hex || fraction == 0)
      some (signed x, tooLarge || tiny, rest)

/-- Reads a double argument of `printf`: the value and the warning, if the
argument is not a number; a quote gives the code of the next character. -/
def printfDouble (arg : String) : DoubleFields × Option String :=
  match arg.toList with
  | [] => (DoubleFields.zero, none)
  | q :: rest =>
    if q = '\'' ∨ q = '"' then (DoubleFields.ofFloat ((rest.head?.map Char.toNat).getD 0).toFloat, none)
    else
      match readDouble arg.toList with
      | none => (DoubleFields.zero, some (arg ++ ": expected numeric value"))
      | some (x, tooLarge, after) =>
        if !after.isEmpty then (x, some (arg ++ ": not completely converted"))
        else if tooLarge then (x, some (arg ++ ": Numerical result out of range"))
        else (x, none)

def roundedAt (v : Decimal.Exact) (p : Nat) : Nat :=
  let shift : Int := v.exp + p
  if 0 ≤ shift then v.coef * Nat.pow 10 shift.toNat
  else Decimal.divRoundEven v.coef (Nat.pow 10 (-shift).toNat)

/-- The `p + 1` significant digits of a decimal, rounded with a tie going to
the even digit, as a whole number, with the decimal exponent of the first. -/
def significant (v : Decimal.Exact) (p : Nat) : Nat × Int :=
  if v.coef == 0 then (0, 0)
  else
    let n := Decimal.digitCount v.coef
    let x : Int := (n : Int) - 1 + v.exp
    if n ≤ p + 1 then (v.coef * Nat.pow 10 (p + 1 - n), x)
    else
      let q := Decimal.divRoundEven v.coef (Nat.pow 10 (n - p - 1))
      if q == Nat.pow 10 (p + 1) then (q / 10, x + 1) else (q, x)

def pointed (digits : Nat) (p : Nat) (point : Bool) : String :=
  let s := toString digits
  let s := String.ofList (List.replicate (p + 1 - s.length) '0') ++ s
  let cut := s.length - p
  String.ofList (s.toList.take cut) ++ (if p > 0 || point then "." else "") ++ String.ofList (s.toList.drop cut)

def exponentText (upper : Bool) (x : Int) : String :=
  let ds := toString x.natAbs
  (if upper then "E" else "e") ++ (if x < 0 then "-" else "+") ++ (if ds.length < 2 then "0" else "") ++ ds

def dropTrailingZeros (s : String) : String :=
  if s.contains '.' then
    let cs := (s.toList.reverse.dropWhile (· == '0')).reverse
    String.ofList (match cs.getLast? with
      | some '.' => cs.dropLast
      | _ => cs)
  else s

def doubleDigits (conv : Char) (precision : Option Nat) (alt : Bool) (v : Decimal.Exact) : String :=
  let upper := conv.isUpper
  match conv.toLower with
  | 'f' => let p := precision.getD 6; pointed (roundedAt v p) p alt
  | 'e' =>
    let p := precision.getD 6
    let (q, x) := significant v p
    pointed q p alt ++ exponentText upper x
  | _ =>
    let p := match precision.getD 6 with
      | 0 => 1
      | k => k
    let (q, x) := significant v (p - 1)
    if x < -4 || x ≥ p then
      let m := pointed q (p - 1) alt
      (if alt then m else dropTrailingZeros m) ++ exponentText upper x
    else
      let k := (p - 1 - x).toNat
      let m := pointed (roundedAt v k) k alt
      if alt then m else dropTrailingZeros m

def hexPadded (count n : Nat) : String :=
  let ds := Nat.toDigits 16 (n % Nat.pow 16 count)
  String.ofList (List.replicate (count - ds.length) '0' ++ ds)

def hexFloat (upper alt : Bool) (precision : Option Nat) (lead frac digits : Nat) (exp : Int) : String × String :=
  let (lead, shown) := match precision with
    | none => (lead, dropTrailingZeros ("." ++ hexPadded digits frac) |>.drop 1 |>.toString)
    | some p =>
      if digits ≤ p then (lead, hexPadded digits frac ++ String.ofList (List.replicate (p - digits) '0'))
      else
        let unit := Nat.pow 16 (digits - p)
        let whole := lead * Nat.pow 16 p + frac / unit
        let r := frac % unit
        let whole := if 2 * r > unit || (2 * r == unit && whole % 2 == 1) then whole + 1 else whole
        (whole / Nat.pow 16 p, if p == 0 then "" else hexPadded p whole)
  let (lead, exp) := if lead ≥ 16 then (lead / 16, exp + 4) else (lead, exp)
  let rest := String.ofList (Nat.toDigits 16 lead) ++ (if !shown.isEmpty || alt then "." ++ shown else "") ++
    "p" ++ (if exp < 0 then "-" else "+") ++ toString exp.natAbs
  if upper then ("0X", rest.toUpper) else ("0x", rest)

def digitsOf (base : Nat) (upper : Bool) (n : Nat) : String :=
  let ds := Nat.toDigits base n
  String.ofList (if upper then ds.map Char.toUpper else ds)

structure Spec where
  flags : List Char := []
  width : Nat := 0
  precision : Option Nat := none
  deriving Inhabited

namespace Spec

def pad (sp : Spec) (s : String) : String :=
  let fill := String.ofList (List.replicate (sp.width - s.length) ' ')
  if sp.flags.contains '-' then s ++ fill else fill ++ s

/-- The sign of a number: `-` when negative, else `+` or a blank as the flags ask. -/
def signOf (sp : Spec) (neg : Bool) : String :=
  if neg then "-" else if sp.flags.contains '+' then "+" else if sp.flags.contains ' ' then " " else ""

/-- A floating-point number laid out: zeros go between the sign and prefix and
the digits when the flags ask for them. -/
def float (sp : Spec) (sign pre digits : String) : String :=
  let body := sign ++ pre ++ digits
  if sp.flags.contains '0' && !sp.flags.contains '-' then
    sign ++ pre ++ String.ofList (List.replicate (sp.width - body.length) '0') ++ digits
  else sp.pad body

def number (sp : Spec) (sign pre digits : String) : String :=
  let digits := match sp.precision with
    | some p => if p = 0 && digits == "0" then "" else String.ofList (List.replicate (p - digits.length) '0') ++ digits
    | none => digits
  let body := sign ++ pre ++ digits
  if sp.flags.contains '0' && !sp.flags.contains '-' && sp.precision.isNone then
    sign ++ pre ++ String.ofList (List.replicate (sp.width - body.length) '0') ++ digits
  else sp.pad body

def signed (sp : Spec) (v : Int) : String :=
  sp.number (sp.signOf (v < 0)) "" (toString v.natAbs)

def unsigned (sp : Spec) (conv : Char) (v : Nat) : String :=
  match conv with
  | 'o' =>
    let ds := digitsOf 8 false v
    sp.number "" (if sp.flags.contains '#' && !ds.startsWith "0" then "0" else "") ds
  | 'x' => sp.number "" (if sp.flags.contains '#' && v != 0 then "0x" else "") (digitsOf 16 false v)
  | 'X' => sp.number "" (if sp.flags.contains '#' && v != 0 then "0X" else "") (digitsOf 16 true v)
  | _ => sp.number "" "" (toString v)

def double (sp : Spec) (conv : Char) (x : DoubleFields) : String :=
  let ⟨neg, biased, fraction⟩ := x
  let sign := sp.signOf neg
  if biased == 2047 then
    let word := if fraction == 0 then "inf" else "nan"
    sp.pad (sign ++ (if conv.isUpper then word.toUpper else word))
  else if conv == 'a' || conv == 'A' then
    let (lead, exp) : Nat × Int :=
      if biased == 0 then (0, if fraction == 0 then 0 else -1022) else (1, (biased : Int) - 1023)
    let (pre, rest) := hexFloat (conv == 'A') (sp.flags.contains '#') sp.precision lead fraction 13 exp
    sp.float sign pre rest
  else
    let value := if biased == 0 && fraction == 0 then (⟨0, 0⟩ : Decimal.Exact)
      else (Decimal.Binary.ofFields biased fraction).value
    sp.float sign "" (doubleDigits conv sp.precision (sp.flags.contains '#') value)

/-- A finite extended number by `%a`, `%e`, `%f` or `%g`. -/
def finiteExtended (sp : Spec) (conv : Char) (x : Extended) : String :=
  let (pre, digits) :=
    if conv == 'a' || conv == 'A' then
      let (lead, frac, exp) := x.hexParts
      hexFloat (conv == 'A') (sp.flags.contains '#') sp.precision lead frac 15 exp
    else ("", doubleDigits conv sp.precision (sp.flags.contains '#') x.magnitude)
  sp.float (sp.signOf x.neg) pre digits

def text (sp : Spec) (s : String) : String :=
  sp.pad (match sp.precision with
    | some p => String.ofList (s.toList.take p)
    | none => s)

end Spec

/-- What formatting gives: the text, the warnings, whether `\c` ended the
output, the error that ended it if one did, and the arguments left. -/
structure Formatted where
  text : String := ""
  warnings : List String := []
  stop : Bool := false
  /-- A conversion that cannot be made, which ends the output. -/
  fatal : Option String := none
  args : List String
  /-- Whether any argument was taken. -/
  took : Bool := false

namespace Formatted

def put (r : Formatted) (s : String) : Formatted := { r with text := r.text ++ s }

def next (r : Formatted) : String × Formatted :=
  match r.args with
  | a :: rest => (a, { r with args := rest, took := true })
  | [] => ("", r)

def nextNumber (r : Formatted) (unsigned : Bool) : Int × Formatted :=
  match r.args with
  | a :: rest =>
    let (v, warning) := printfNumber unsigned a
    (v, { r with args := rest, took := true, warnings := r.warnings ++ warning.toList })
  | [] => (0, r)

def nextDouble (r : Formatted) : DoubleFields × Formatted :=
  match r.args with
  | a :: rest =>
    let (v, warning) := printfDouble a
    (v, { r with args := rest, took := true, warnings := r.warnings ++ warning.toList })
  | [] => (DoubleFields.zero, r)

end Formatted

def readCount (cs : List Char) (r : Formatted) : Option Int × List Char × Formatted :=
  match cs with
  | '*' :: rest =>
    let (v, r) := r.nextNumber false
    (some v, rest, r)
  | _ =>
    let ds := cs.takeWhile Char.isDigit
    if ds.isEmpty then (none, cs, r)
    else (some (ds.foldl (fun n d => 10 * n + (d.toNat - '0'.toNat)) 0 : Nat), cs.drop ds.length, r)

def convert (whole : List Char) (r : Formatted) : Formatted × List Char :=
  let flags := whole.takeWhile fun c => c = '-' ∨ c = '+' ∨ c = ' ' ∨ c = '#' ∨ c = '0'
  let cs := whole.drop flags.length
  let (width, cs, r) := readCount cs r
  let (precision, cs, r) := match cs with
    | '.' :: rest =>
      let (p, rest, r) := readCount rest r
      (some (p.getD 0), rest, r)
    | _ => (none, cs, r)
  let flags := if (width.getD 0) < 0 then flags ++ ['-'] else flags
  let sp : Spec := { flags := flags, width := (width.getD 0).natAbs,
                     precision := precision.bind fun p => if p < 0 then none else some p.toNat }
  match cs with
  | c :: rest =>
    match c with
    | 's' => let (a, r) := r.next; (r.put (sp.text a), rest)
    | 'b' =>
      let (a, r) := r.next
      let (t, cut) := escapedText (a.length + 1) a.toList
      let r := r.put (sp.text t)
      (if cut then { r with stop := true } else r, rest)
    | 'c' =>
      let (a, r) := r.next
      (r.put (sp.text ((a.toList.head?.map String.singleton).getD "\x00")), rest)
    | 'd' | 'i' => let (v, r) := r.nextNumber false; (r.put (sp.signed v), rest)
    | 'u' | 'o' | 'x' | 'X' => let (v, r) := r.nextNumber true; (r.put (sp.unsigned c v.toNat), rest)
    | 'f' | 'F' | 'e' | 'E' | 'g' | 'G' | 'a' | 'A' => let (v, r) := r.nextDouble; (r.put (sp.double c v), rest)
    | _ =>
      let directive := "%" ++ String.ofList (whole.take (whole.length - rest.length))
      ({ r with stop := true, fatal := some (directive ++ ": invalid directive") }, [])
  | [] => ({ r with stop := true, fatal := some "missing format character" }, [])

def formatOnce : Nat → List Char → Formatted → Formatted
  | 0, _, r => r
  | _ + 1, [], r => r
  | f + 1, '%' :: '%' :: rest, r => formatOnce f rest (r.put "%")
  | f + 1, '%' :: rest, r =>
    let (r, rest) := convert rest r
    if r.stop then r else formatOnce f rest r
  | f + 1, '\\' :: rest, r =>
    let (e, more) := formatEscape rest
    formatOnce f more (r.put e)
  | f + 1, c :: rest, r => formatOnce f rest (r.put (String.singleton c))

def printfGo : Nat → List Char → Formatted → Formatted
  | 0, _, r => r
  | f + 1, format, r =>
    let r := formatOnce (format.length + 1) format { r with took := false }
    if !r.stop && r.took && !r.args.isEmpty then printfGo f format r else r

def printfText (format : String) (args : List String) : Formatted :=
  printfGo (args.length + 1) format.toList { args := args }

end Shell
end JuryCaptions
