/-!
Free-form dates, as `touch -d` takes them: every word one the reader knows and
numbers naming a day that exists or a time of day.
-/

namespace JuryCaptions
namespace Dates

inductive Piece where
  | number (value : Nat)
  | word (text : String)
  | mark (c : Char)
  deriving BEq, Inhabited

/-- Cuts a date into pieces; letters and dots make a word, the dots dropped,
and parentheses hold comments. -/
def pieces : Nat → List Char → Nat → List Piece → List Piece
  | 0, _, _, acc => acc.reverse
  | _ + 1, [], _, acc => acc.reverse
  | f + 1, c :: rest, depth, acc =>
    if c == '(' then pieces f rest (depth + 1) acc
    else if c == ')' then pieces f rest (depth - 1) acc
    else if depth > 0 || c == ' ' || c == '\t' || c == '\n' then pieces f rest depth acc
    else if c.isDigit then
      let ds := (c :: rest).takeWhile Char.isDigit
      pieces f ((c :: rest).drop ds.length) depth
        (.number (ds.foldl (fun n d => 10 * n + (d.toNat - 48)) 0) :: acc)
    else if c.isAlpha then
      let w := (c :: rest).takeWhile fun d => d.isAlpha || d == '.'
      pieces f ((c :: rest).drop w.length) depth
        (.word (String.ofList ((w.filter (· != '.')).map Char.toLower)) :: acc)
    else pieces f rest depth (.mark c :: acc)

def months : List String :=
  ["january", "february", "march", "april", "may", "june", "july", "august", "september", "october", "november",
   "december"]

def weekdays : List String :=
  ["sunday", "monday", "tuesday", "wednesday", "thursday", "friday", "saturday", "tues", "wednes", "thur", "thurs"]

def units : List String := ["year", "month", "fortnight", "week", "day", "hour", "minute", "min", "second", "sec"]

def relativeWords : List String :=
  ["tomorrow", "yesterday", "today", "now", "last", "this", "next", "first", "third", "fourth", "fifth", "sixth",
   "seventh", "eighth", "ninth", "tenth", "eleventh", "twelfth", "ago", "hence", "am", "pm", "dst"]

def zones : List String :=
  ["gmt", "ut", "utc", "wet", "west", "bst", "art", "brt", "brst", "nst", "ndt", "ast", "adt", "clt", "clst", "est",
   "edt", "cst", "cdt", "mst", "mdt", "pst", "pdt", "akst", "akdt", "hst", "hast", "hadt", "sst", "wat", "cet",
   "cest", "met", "mez", "mest", "mesz", "eet", "eest", "cat", "sast", "eat", "msk", "msd", "ist", "sgt", "kst",
   "jst", "gst", "nzst", "nzdt"]

def knownWord (w : String) : Bool :=
  let short (names : List String) : Bool := w.length == 3 && names.any (·.startsWith w)
  months.contains w || weekdays.contains w || short months || short weekdays || w == "sept" ||
    units.contains w || (w.endsWith "s" && units.contains (w.dropEnd 1).toString) ||
    relativeWords.contains w || zones.contains w || (w.length == 1 && w != "j")

def daysIn (year month : Nat) : Nat :=
  match month with
  | 2 => if year % 4 == 0 && (year % 100 != 0 || year % 400 == 0) then 29 else 28
  | 4 | 6 | 9 | 11 => 30
  | _ => 31

def dayExists (year month day : Nat) : Bool :=
  1 ≤ month && month ≤ 12 && 1 ≤ day && day ≤ daysIn year month

def fullYear (y : Nat) : Nat := if y < 69 then 2000 + y else if y < 100 then 1900 + y else y

/-- Whether the calendar dates and clock times among the pieces are ones;
a time followed by `am` or `pm` has an hour from 1 to 12. -/
def formsHold : Nat → List Piece → Bool
  | 0, _ => true
  | _ + 1, [] => true
  | f + 1, p :: more =>
    match p :: more with
    | .number y :: .mark '-' :: .number m :: .mark '-' :: .number d :: rest =>
      dayExists y m d && formsHold f rest
    | .number a :: .mark '/' :: .number b :: .mark '/' :: .number c :: rest =>
      (if a ≥ 1000 then dayExists a b c else dayExists (fullYear c) a b) && formsHold f rest
    | .number m :: .mark '/' :: .number d :: rest => dayExists 2000 m d && formsHold f rest
    | .number h :: .mark ':' :: .number m :: rest =>
      let (secondOk, rest) := match rest with
        | .mark ':' :: .number s :: more => (decide (s ≤ 60), more)
        | _ => (true, rest)
      let twelve := match rest with
        | .word w :: _ => w == "am" || w == "pm"
        | _ => false
      (if twelve then 1 ≤ h && h ≤ 12 else h ≤ 23) && m ≤ 59 && secondOk && formsHold f rest
    | _ => formsHold f more

def valid (s : String) : Bool :=
  let ps := pieces (s.length + 1) s.toList 0 []
  ps.all (fun p => match p with
    | .word w => knownWord w
    | .mark c => "-+/:.,@".toList.contains c
    | .number _ => true) &&
    formsHold (ps.length + 1) ps

end Dates
end JuryCaptions
