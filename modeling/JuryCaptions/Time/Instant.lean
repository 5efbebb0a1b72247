import JuryCaptions.Time.Duration
/-!
Instants of civil time, nanoseconds since 1970 with the offset they were
written in, and their RFC 3339 text with a fraction of up to nine digits.
-/

namespace JuryCaptions

/-- A point in time and the offset from UTC, in seconds, that it is shown in. -/
structure Instant where
  unixNanos : Int
  offset : Int := 0
  deriving Repr, BEq, Inhabited

namespace Instant

def daysFromCivil (y m d : Int) : Int :=
  let y := if m ≤ 2 then y - 1 else y
  let era := (if y ≥ 0 then y else y - 399) / 400
  let yoe := y - era * 400
  let mp := (m + 9) % 12
  let doy := (153 * mp + 2) / 5 + d - 1
  let doe := yoe * 365 + yoe / 4 - yoe / 100 + doy
  era * 146097 + doe - 719468

def civilFromDays (z : Int) : Int × Int × Int :=
  let z := z + 719468
  let era := (if z ≥ 0 then z else z - 146096) / 146097
  let doe := z - era * 146097
  let yoe := (doe - doe / 1460 + doe / 36524 - doe / 146096) / 365
  let y := yoe + era * 400
  let doy := doe - (365 * yoe + yoe / 4 - yoe / 100)
  let mp := (5 * doy + 2) / 153
  let d := doy - (153 * mp + 2) / 5 + 1
  let m := if mp < 10 then mp + 3 else mp - 9
  (if m ≤ 2 then y + 1 else y, m, d)

def isLeap (y : Int) : Bool := (y % 4 == 0 && y % 100 != 0) || y % 400 == 0

def monthDays (y m : Int) : Int :=
  if m = 2 then (if isLeap y then 29 else 28)
  else if m = 4 ∨ m = 6 ∨ m = 9 ∨ m = 11 then 30 else 31

def zero : Instant := ⟨daysFromCivil 1 1 1 * 86400 * 1000000000, 0⟩

def isZero (t : Instant) : Bool := t.unixNanos == zero.unixNanos

/-- The nanoseconds since 1970 as a 64-bit count: outside the years 1678 to
2262, where the count does not fit, it wraps around. -/
def unixNanos64 (t : Instant) : Int := Duration.wrap t.unixNanos

def toUtc (t : Instant) : Instant := { t with offset := 0 }

def add (t : Instant) (d : Duration) : Instant := { t with unixNanos := t.unixNanos + d }

/-- The duration from `a` to `b`; one too long for a duration is the longest
one of its sign. -/
def since (b a : Instant) : Duration := Duration.saturate (b.unixNanos - a.unixNanos)

/-- Decimal digits of `n`, padded with zeros to `width`. -/
def pad (n : Nat) (width : Nat) : String :=
  let ds := Nat.toDigits 10 n
  String.ofList (List.replicate (width - ds.length) '0' ++ ds)

/-- The nine fraction digits of a nanosecond count with trailing zeros dropped,
after a point; nothing for a whole second. -/
def fraction (nanos : Nat) : String :=
  if nanos = 0 then ""
  else "." ++ String.ofList ((pad nanos 9).toList.reverse.dropWhile (· = '0')).reverse

/-- The RFC 3339 text of an instant in its own offset, with the fraction of the
second to nanoseconds without trailing zeros. -/
def format (t : Instant) : String :=
  let shown := t.unixNanos + t.offset * 1000000000
  let secs := shown.fdiv 1000000000
  let nanos := (shown.fmod 1000000000).toNat
  let days := secs.fdiv 86400
  let sod := (secs.fmod 86400).toNat
  let (y, m, d) := civilFromDays days
  let year := if y < 0 then "-" ++ pad y.natAbs 4 else pad y.toNat 4
  let zone := if t.offset = 0 then "Z"
    else
      let a := t.offset.natAbs / 60
      (if t.offset < 0 then "-" else "+") ++ pad (a / 60) 2 ++ ":" ++ pad (a % 60) 2
  year ++ "-" ++ pad m.toNat 2 ++ "-" ++ pad d.toNat 2 ++ "T" ++ pad (sod / 3600) 2 ++ ":" ++
    pad (sod / 60 % 60) 2 ++ ":" ++ pad (sod % 60) 2 ++ fraction nanos ++ zone

/-- The value of exactly `n` decimal digits at the front of a list. -/
def digitsN (n : Nat) (cs : List Char) : Option (Nat × List Char) :=
  let ds := cs.take n
  if ds.length = n ∧ ds.all Char.isDigit then
    some (ds.foldl (fun acc c => acc * 10 + (c.toNat - '0'.toNat)) 0, cs.drop n)
  else none

def digitsUpTo2 (cs : List Char) : Option (Nat × List Char) :=
  match cs with
  | a :: b :: rest =>
    if a.isDigit ∧ b.isDigit then digitsN 2 cs
    else if a.isDigit then some (a.toNat - '0'.toNat, b :: rest)
    else none
  | [a] => if a.isDigit then some (a.toNat - '0'.toNat, []) else none
  | [] => none

def expect (c : Char) : List Char → Option (List Char)
  | d :: rest => if c = d then some rest else none
  | [] => none

/-- Reads a fraction of a second after the seconds, if one follows: a point or
comma and any number of digits, of which the first nine count. -/
def readFraction (cs : List Char) : Nat × List Char :=
  match cs with
  | p :: d :: rest =>
    if (p = '.' ∨ p = ',') ∧ d.isDigit then
      let ds := (d :: rest).takeWhile Char.isDigit
      let nine := ds.take 9
      ((nine ++ List.replicate (9 - nine.length) '0').foldl
        (fun acc c => acc * 10 + (c.toNat - '0'.toNat)) 0, cs.drop (1 + ds.length))
    else (0, cs)
  | _ => (0, cs)

/-- Reads the offset of a time: `Z`, or a sign, two digits of hours up to 24,
a colon and two digits of minutes up to 60; in seconds east of UTC. -/
def readOffset (cs : List Char) : Option (Int × List Char) :=
  match cs with
  | 'Z' :: rest => some (0, rest)
  | sg :: a :: b :: ':' :: c :: e :: rest => do
    let (oh, _) ← digitsN 2 [a, b]
    let (om, _) ← digitsN 2 [c, e]
    if oh > 24 ∨ om > 60 then none
    let secs : Int := (oh * 3600 + om * 60 : Nat)
    if sg = '+' then some (secs, rest)
    else if sg = '-' then some (-secs, rest)
    else none
  | _ => none

/-- Reads the RFC 3339 text of an instant, as the layout
`2006-01-02T15:04:05.999999999Z07:00` reads it: the hour may have one digit,
the fraction any number of digits of which nine count, and the offset up to
`±24:60`. The day must exist in its month. -/
def parse (s : String) : Option Instant := do
  let cs := s.toList
  let (y, cs) ← digitsN 4 cs
  let cs ← expect '-' cs
  let (mo, cs) ← digitsN 2 cs
  let cs ← expect '-' cs
  let (d, cs) ← digitsN 2 cs
  let cs ← expect 'T' cs
  let (h, cs) ← digitsUpTo2 cs
  let cs ← expect ':' cs
  let (mi, cs) ← digitsN 2 cs
  let cs ← expect ':' cs
  let (se, cs) ← digitsN 2 cs
  let (nanos, cs) := readFraction cs
  let (offset, cs) ← readOffset cs
  if !cs.isEmpty then none
  if mo < 1 ∨ mo > 12 ∨ h > 23 ∨ mi > 59 ∨ se > 59 then none
  if d < 1 ∨ (d : Int) > monthDays y mo then none
  let days := daysFromCivil y mo d
  let secs := days * 86400 + h * 3600 + mi * 60 + se - offset
  pure ⟨secs * 1000000000 + nanos, offset⟩

end Instant
end JuryCaptions
