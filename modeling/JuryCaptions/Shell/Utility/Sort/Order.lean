import JuryCaptions.Shell.Utility
import JuryCaptions.Number.ExtendedRead
/-!
The orders `sort` compares keys by: bytes, a number of digits (`n`), a C
library number in the 80-bit format (`g`), a number with a unit (`h`), a month
(`M`) or a version (`V`).
-/

namespace JuryCaptions
namespace Shell

/-- How a key compares: as bytes unless one of the ways of reading a number,
a month or a version is asked for. -/
structure KeyOrder where
  numeric : Bool := false
  general : Bool := false
  human : Bool := false
  month : Bool := false
  version : Bool := false
  foldCase : Bool := false
  dictionary : Bool := false
  printable : Bool := false
  blanksAtStart : Bool := false
  blanksAtEnd : Bool := false
  reverse : Bool := false
  deriving Inhabited, BEq

def KeyOrder.plain (o : KeyOrder) : Bool :=
  !o.numeric && !o.general && !o.human && !o.month && !o.version && !o.foldCase && !o.dictionary &&
    !o.printable && !o.blanksAtStart && !o.blanksAtEnd

def KeyOrder.clash (o : KeyOrder) : Option String :=
  let count (b : Bool) : Nat := if b then 1 else 0
  let ways := count o.numeric + count o.general + count o.human + count o.month +
    count (o.version || o.dictionary || o.printable)
  if ways ≤ 1 then none
  else
    let letter (b : Bool) (c : Char) : List Char := if b then [c] else []
    some (String.ofList (letter o.dictionary 'd' ++ letter o.foldCase 'f' ++ letter o.general 'g' ++
      letter o.human 'h' ++ letter (o.printable && !o.dictionary) 'i' ++ letter o.month 'M' ++
      letter o.numeric 'n' ++ letter o.version 'V'))

def KeyOrder.withLetters (o : KeyOrder) (start : Bool) : List Char → Option KeyOrder
  | [] => some o
  | c :: cs =>
    let o' : Option KeyOrder := match c with
      | 'n' => some { o with numeric := true }
      | 'g' => some { o with general := true }
      | 'h' => some { o with human := true }
      | 'M' => some { o with month := true }
      | 'V' => some { o with version := true }
      | 'f' => some { o with foldCase := true }
      | 'd' => some { o with dictionary := true }
      | 'i' => some { o with printable := true }
      | 'r' => some { o with reverse := true }
      | 'R' => some o
      | 'b' => some (if start then { o with blanksAtStart := true } else { o with blanksAtEnd := true })
      | _ => none
    o'.bind fun o => o.withLetters start cs

def sortNumber (cs : List Char) : Bool × List Char × List Char :=
  let cs := cs.dropWhile isBlankChar
  let (neg, cs) := match cs with
    | '-' :: rest => (true, rest)
    | _ => (false, cs)
  let whole := (cs.takeWhile Char.isDigit).dropWhile (· == '0')
  let rest := cs.dropWhile Char.isDigit
  let frac := match rest with
    | '.' :: more => ((more.takeWhile Char.isDigit).reverse.dropWhile (· == '0')).reverse
    | _ => []
  if whole.isEmpty && frac.isEmpty then (false, [], []) else (neg, whole, frac)

def compareBytes : List Char → List Char → Ordering
  | [], [] => .eq
  | [], _ :: _ => .lt
  | _ :: _, [] => .gt
  | a :: as, b :: bs => if a == b then compareBytes as bs else compare a b

def compareSortNumbers (a b : List Char) : Ordering :=
  let (na, wa, fa) := sortNumber a
  let (nb, wb, fb) := sortNumber b
  let magnitude : Ordering :=
    if wa.length != wb.length then compare wa.length wb.length
    else match compareBytes wa wb with
      | .eq => compareBytes fa fb
      | o => o
  match na, nb with
  | false, false => magnitude
  | true, true => magnitude.swap
  | true, false => .lt
  | false, true => .gt

def compareGeneral (a b : List Char) : Ordering :=
  match ExtendedValue.read a, ExtendedValue.read b with
  | none, none => .eq
  | none, some _ => .lt
  | some _, none => .gt
  | some x, some y => x.value.compare y.value

def unitOrder (cs : List Char) : Int :=
  let cs := cs.dropWhile isBlankChar
  let (minus, cs) := match cs with
    | '-' :: r => (true, r)
    | _ => (false, cs)
  let whole := cs.takeWhile Char.isDigit
  let rest := cs.drop whole.length
  let (frac, rest) := match rest with
    | '.' :: more => (more.takeWhile Char.isDigit, more.dropWhile Char.isDigit)
    | _ => ([], rest)
  if (whole ++ frac).all (· == '0') then 0
  else
    let order : Int := match rest with
      | 'K' :: _ | 'k' :: _ => 1
      | 'M' :: _ => 2
      | 'G' :: _ => 3
      | 'T' :: _ => 4
      | 'P' :: _ => 5
      | 'E' :: _ => 6
      | 'Z' :: _ => 7
      | 'Y' :: _ => 8
      | _ => 0
    if minus then -order else order

def monthOf (cs : List Char) : Nat :=
  let front := ((cs.dropWhile isBlankChar).take 3).map Char.toUpper
  let names := ["JAN", "FEB", "MAR", "APR", "MAY", "JUN", "JUL", "AUG", "SEP", "OCT", "NOV", "DEC"]
  match names.findIdx? (·.toList == front) with
  | some i => i + 1
  | none => 0

def isDigitByte (c : Nat) : Bool := 48 ≤ c && c ≤ 57

def isLetterByte (c : Nat) : Bool := (65 ≤ c && c ≤ 90) || (97 ≤ c && c ≤ 122)

def versionRank : Option Nat → Int
  | none => -1
  | some c =>
    if isDigitByte c then 0 else if isLetterByte c then c else if c == 126 then -2 else c + 256

def versionLetters : Nat → List Nat → List Nat → Sum Int (List Nat × List Nat)
  | 0, a, b => .inr (a, b)
  | f + 1, a, b =>
    let letter (v : List Nat) : Bool := match v with
      | c :: _ => !isDigitByte c
      | [] => false
    if letter a || letter b then
      let ra := versionRank a.head?
      let rb := versionRank b.head?
      if ra != rb then .inl (ra - rb) else versionLetters f a.tail b.tail
    else .inr (a, b)

def versionParts : Nat → List Nat → List Nat → Int
  | 0, _, _ => 0
  | f + 1, a, b =>
    if a.isEmpty && b.isEmpty then 0
    else
      match versionLetters (a.length + b.length + 1) a b with
      | .inl d => d
      | .inr (a, b) =>
        let a := a.dropWhile (· == 48)
        let b := b.dropWhile (· == 48)
        let da := a.takeWhile isDigitByte
        let db := b.takeWhile isDigitByte
        if da.length > db.length then 1
        else if da.length < db.length then -1
        else
          match (da.zip db).find? (fun (x, y) => x != y) with
          | some (x, y) => (x : Int) - y
          | none => versionParts f (a.drop da.length) (b.drop db.length)

def suffixStart (s : List Nat) : Nat :=
  let n := s.length
  let at? (i : Nat) : Nat := s.getD i 0
  let suffixChar (c : Nat) : Bool := isLetterByte c || isDigitByte c || c == 126
  let rec skip : Nat → Nat → Nat
    | 0, i => i
    | f + 1, i =>
      if i + 1 < n && at? i == 46 && (isLetterByte (at? (i + 1)) || at? (i + 1) == 126) then
        let j := i + 2 + ((s.drop (i + 2)).takeWhile suffixChar).length
        skip f j
      else i
  let rec go : Nat → Nat → Nat → Nat
    | 0, _, p => p
    | f + 1, i, p =>
      if i ≥ n then p
      else go f (skip (n + 1) (i + 1)) (i + 1)
  go (n + 1) 0 0

def compareVersions (a b : List Char) : Ordering :=
  let a := (String.ofList a).toUTF8.toList.map (·.toNat)
  let b := (String.ofList b).toUTF8.toList.map (·.toNat)
  let ofInt (d : Int) : Ordering := if d < 0 then .lt else if d > 0 then .gt else .eq
  let rest : Ordering :=
    let pa := suffixStart a
    let pb := suffixStart b
    let first := versionParts (a.length + b.length + 1) (a.take pa) (b.take pb)
    if first != 0 || (pa == a.length && pb == b.length) then ofInt first
    else ofInt (versionParts (a.length + b.length + 1) a b)
  match a, b with
  | [], [] => .eq
  | [], _ => .lt
  | _, [] => .gt
  | 46 :: ra, 46 :: rb =>
    match ra, rb with
    | [], [] => .eq
    | [], _ => .lt
    | _, [] => .gt
    | [46], [46] => .eq
    | [46], _ => .lt
    | _, [46] => .gt
    | _, _ => rest
  | 46 :: _, _ => .lt
  | _, 46 :: _ => .gt
  | _, _ => rest

def KeyOrder.compareKeys (o : KeyOrder) (a b : List Char) : Ordering :=
  let keep (c : Char) : Bool :=
    if o.dictionary then isBlankChar c || c.isAlphanum
    else !o.printable || (c.toNat ≥ 32 && c.toNat < 127)
  let norm (cs : List Char) : List Char :=
    let cs := cs.filter keep
    if o.foldCase then cs.map Char.toUpper else cs
  let a := norm a
  let b := norm b
  if o.numeric then compareSortNumbers a b
  else if o.general then compareGeneral a b
  else if o.human then
    let d := unitOrder a - unitOrder b
    if d < 0 then .lt else if d > 0 then .gt else compareSortNumbers a b
  else if o.month then compare (monthOf a) (monthOf b)
  else if o.version then compareVersions a b
  else compareBytes a b

end Shell
end JuryCaptions
