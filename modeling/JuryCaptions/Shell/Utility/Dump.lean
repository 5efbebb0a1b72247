import JuryCaptions.Shell.Utility
import JuryCaptions.Shell.Format
/-!
`od`: the input is cut into blocks of sixteen bytes (`-w` sets another width),
each written per format asked for after the block's offset, in octal unless
`-A` says decimal, hex or none.
-/

namespace JuryCaptions
namespace Shell

inductive DumpKind where
  | octal
  | signed
  | unsigned
  | hex
  /-- A byte as a character, controls escaped and other bytes in octal. -/
  | char
  /-- A byte as a character, controls by name, the high bit dropped. -/
  | named
  /-- A floating point number of four, eight or sixteen bytes, the last
  holding the 80-bit extended format in its low ten. -/
  | float
  deriving BEq, Inhabited

/-- A format of `od`: how units are written, their size in bytes, and whether
the printable bytes of each line follow it. -/
structure DumpFormat where
  kind : DumpKind
  size : Nat
  trailer : Bool := false
  deriving Inhabited

def digitsPadded (base width n : Nat) : String :=
  let ds := Nat.toDigits base n
  String.ofList (List.replicate (width - ds.length) '0' ++ ds)

def padLeft (width : Nat) (s : String) : String :=
  String.ofList (List.replicate (width - s.length) ' ') ++ s

def controlNames : List String :=
  ["nul", "soh", "stx", "etx", "eot", "enq", "ack", "bel", "bs", "ht", "nl", "vt", "ff", "cr", "so", "si",
   "dle", "dc1", "dc2", "dc3", "dc4", "nak", "syn", "etb", "can", "em", "sub", "esc", "fs", "gs", "rs", "us", "sp"]

namespace DumpFormat

def width (f : DumpFormat) : Nat :=
  let bySize (one two four eight : Nat) : Nat :=
    if f.size == 1 then one else if f.size == 2 then two else if f.size == 4 then four else eight
  match f.kind with
  | .octal => bySize 3 6 11 22
  | .signed => bySize 4 6 11 20
  | .unsigned => bySize 3 5 10 20
  | .hex => bySize 2 4 8 16
  | .char | .named => 3
  | .float => if f.size == 4 then 15 else if f.size == 8 then 24 else 29

end DumpFormat

def floatUnit (size v : Nat) : Bool × Except String (Decimal.Binary × Bool) :=
  let (fracBits, expBits) := if size == 4 then (23, 8) else if size == 8 then (52, 11) else (64, 15)
  let bias : Int := Nat.pow 2 (expBits - 1) - 1
  let whole := if size == 16 then v % Nat.pow 2 80 else v
  let frac := whole % Nat.pow 2 fracBits
  let biased := whole / Nat.pow 2 fracBits % Nat.pow 2 expBits
  let neg := whole / Nat.pow 2 (fracBits + expBits) % 2 == 1
  let lead := if size == 16 then 0 else Nat.pow 2 fracBits
  let shift : Int := if size == 16 then 63 else fracBits
  let fraction := if size == 16 then frac % Nat.pow 2 63 else frac
  if biased + 1 == Nat.pow 2 expBits then (neg, .error (if fraction == 0 then "inf" else "nan"))
  else if biased == 0 then (neg, .ok (⟨frac, 1 - bias - shift, false⟩, true))
  else (neg, .ok (⟨frac + lead, (biased : Int) - bias - shift, fraction == 0 && biased > 1⟩, false))

def floatText (size v : Nat) : String :=
  let (neg, unit) := floatUnit size v
  let sign := if neg then "-" else ""
  match unit with
  | .error word => sign ++ word
  | .ok (b, tiny) =>
    if b.mant == 0 then sign ++ "0"
    else
      let (least, most) := if size == 4 then (6, 9) else if size == 8 then (15, 17) else (18, 21)
      let value := b.value
      let start := if tiny then 1 else least
      let fits (p : Nat) : Bool :=
        let (q, x) := significant value (p - 1)
        b.readsBack ⟨q, x - (p - 1 : Nat)⟩
      let p := ((List.range (most + 1 - start)).map (· + start) |>.find? fits).getD most
      sign ++ doubleDigits 'g' (some p) false value

namespace DumpFormat

def text (f : DumpFormat) (bytes : List Nat) : String :=
  let v := bytes.foldr (fun b acc => acc * 256 + b) 0
  let b := bytes.headD 0
  match f.kind with
  | .octal => digitsPadded 8 f.width v
  | .hex => digitsPadded 16 f.width v
  | .unsigned => toString v
  | .signed =>
    let whole := Nat.pow 256 f.size
    if 2 * v ≥ whole then "-" ++ toString (whole - v) else toString v
  | .char =>
    match b with
    | 0 => "\\0"
    | 7 => "\\a"
    | 8 => "\\b"
    | 12 => "\\f"
    | 10 => "\\n"
    | 13 => "\\r"
    | 9 => "\\t"
    | 11 => "\\v"
    | _ => if 32 ≤ b && b < 127 then String.singleton (Char.ofNat b) else digitsPadded 8 3 b
  | .named =>
    let c := b % 128
    if c == 127 then "del" else controlNames.getD c (String.singleton (Char.ofNat c))
  | .float => floatText f.size v

end DumpFormat

def readDumpFormats (spec : String) : Except String (List DumpFormat) :=
  let rec go : Nat → List Char → Except String (List DumpFormat)
    | 0, _ => .ok []
    | _ + 1, [] => .ok []
    | f + 1, c :: rest => do
      let kind? : Option DumpKind := match c with
        | 'o' => some .octal
        | 'd' => some .signed
        | 'u' => some .unsigned
        | 'x' => some .hex
        | 'c' => some .char
        | 'a' => some .named
        | 'f' => some .float
        | _ => none
      let some kind := kind? |
        .error ("invalid character '" ++ String.singleton c ++ "' in type string " ++ quoteText spec)
      let (size, rest) ← if kind == .char || kind == .named then pure (1, rest) else
        if kind == .float then
          match rest with
          | 'F' :: more => pure (4, more)
          | 'D' :: more => pure (8, more)
          | 'L' :: more => pure (16, more)
          | _ =>
            let ds := rest.takeWhile Char.isDigit
            if ds.isEmpty then pure (8, rest)
            else
              let n := (String.ofList ds).toNat!
              if n == 4 || n == 8 || n == 16 then pure (n, rest.drop ds.length)
              else .error ("invalid type string " ++ quoteText spec ++ ";\nthis system doesn't provide a " ++
                toString n ++ "-byte floating point type")
        else
        match rest with
        | 'C' :: more => pure (1, more)
        | 'S' :: more => pure (2, more)
        | 'I' :: more => pure (4, more)
        | 'L' :: more => pure (8, more)
        | _ =>
          let ds := rest.takeWhile Char.isDigit
          if ds.isEmpty then pure (4, rest)
          else
            let n := (String.ofList ds).toNat!
            if n == 1 || n == 2 || n == 4 || n == 8 then pure (n, rest.drop ds.length)
            else .error ("invalid type string " ++ quoteText spec ++ ";\nthis system doesn't provide a " ++
              toString n ++ "-byte integral type")
      let (trailer, rest) := match rest with
        | 'z' :: more => (true, more)
        | _ => (false, rest)
      let more ← go f rest
      return { kind, size, trailer } :: more
  if spec.isEmpty then .error ("invalid type string " ++ quoteText spec) else go (spec.length + 1) spec.toList

/-- The units of one line of a format: `fields` units in a full block, the last `blank`
of them left out, `pad` spaces shared out before them. -/
def dumpFields (f : DumpFormat) (big : Bool) (block : List Nat) (fields blank pad : Nat) : String :=
  let shown := fields - blank
  let (out, _) := (List.range shown).foldl (fun (acc : String × Nat) k =>
    let i := fields - k
    let nextPad := pad * (i - 1) / fields
    let unit := (block.drop (k * f.size)).take f.size
    let unit := unit ++ List.replicate (f.size - unit.length) 0
    let unit := if big then unit.reverse else unit
    (acc.1 ++ padLeft (acc.2 - nextPad + f.width) (f.text unit), nextPad)) ("", pad)
  out

def dumpTrailer (block : List Nat) : String :=
  "  >" ++ String.ofList (block.map fun b => if 32 ≤ b && b < 127 then Char.ofNat b else '.') ++ "<"

structure DumpSettings where
  formats : List DumpFormat
  /-- The base of the offsets, none for no offsets. -/
  radix : Option Nat
  perLine : Nat
  /-- Whether every block is written, equal ones too. -/
  all : Bool
  /-- Whether the bytes of a unit are read highest first. -/
  big : Bool := false

namespace DumpSettings

def offset (s : DumpSettings) (n : Nat) : String :=
  match s.radix with
  | some 16 => digitsPadded 16 6 n
  | some r => digitsPadded r 7 n
  | none => ""

def lines (s : DumpSettings) (at0 : Nat) (block : List Nat) : String :=
  let widthOf (f : DumpFormat) := (f.width + 1) * (s.perLine / f.size)
  let perBlock := s.formats.foldl (fun m f => max m (widthOf f)) 0
  let lead := (s.offset at0).length
  String.join (s.formats.zipIdx.map fun (f, i) =>
    let fields := s.perLine / f.size
    let blank := (s.perLine - block.length) / f.size
    let pad := perBlock - f.width * fields
    let head := if i == 0 then s.offset at0 else String.ofList (List.replicate lead ' ')
    let trailer := if f.trailer then
        String.ofList (List.replicate (blank * (f.width + 1)) ' ') ++ dumpTrailer block
      else ""
    head ++ dumpFields f s.big block fields blank pad ++ trailer ++ "\n")

def dump (s : DumpSettings) (start : Nat) (bytes : List Nat) : String :=
  let blocks := (List.range ((bytes.length + s.perLine - 1) / s.perLine)).map fun k =>
    (start + k * s.perLine, (bytes.drop (k * s.perLine)).take s.perLine)
  let (out, _) := blocks.foldl (fun (acc : String × Option (List Nat × Bool)) (at0, block) =>
    match acc with
    | (out, some (prev, starred)) =>
      if !s.all && prev == block && block.length == s.perLine then
        (if starred then out else out ++ "*\n", some (prev, true))
      else (out ++ s.lines at0 block, some (block, false))
    | (out, none) => (out ++ s.lines at0 block, some (block, false))) ("", none)
  let last := s.offset (start + bytes.length)
  out ++ (if s.radix.isSome then last ++ "\n" else "")

def strings (s : DumpSettings) (least start : Nat) (bytes : List Nat) : String :=
  let printable (b : Nat) : Bool := 32 ≤ b && b < 127
  let (out, _, _) := bytes.zipIdx.foldl (fun (out, run, from_) (b, i) =>
    if b == 0 && run.length ≥ least then
      (out ++ s.offset (start + from_) ++ (if s.radix.isSome then " " else "") ++
        String.ofList (run.reverse.map Char.ofNat) ++ "\n", [], i + 1)
    else if printable b then (out, b :: run, if run.isEmpty then i else from_)
    else (out, [], i + 1)) ("", ([] : List Nat), 0)
  out

end DumpSettings

inductive CountFault where
  | invalid
  | badSuffix
  | tooLarge

def CountFault.message (option value : String) : CountFault → String
  | .invalid => "invalid " ++ option ++ " argument " ++ quoteText value
  | .badSuffix => "invalid suffix in " ++ option ++ " argument " ++ quoteText value
  | .tooLarge => option ++ " argument " ++ quoteText value ++ " too large"

def leadingDigits (base : Nat) (cs : List Char) : Option Nat × List Char :=
  let ds := cs.takeWhile fun c => (digitIn base c).isSome
  (if ds.isEmpty then none else some (ds.foldl (fun n c => base * n + (digitIn base c).getD 0) 0),
    cs.drop ds.length)

def readOptionCount (base : Nat) (units : String) (s : String) : Except CountFault Nat :=
  let cs := s.toList.dropWhile isSpaceChar
  if cs.head? == some '-' then .error .invalid
  else
    let cs := if cs.head? == some '+' then cs.drop 1 else cs
    let (base, cs) : Nat × List Char :=
      if base != 0 then
        (base, if base == 16 && cs.take 2 ∈ [['0', 'x'], ['0', 'X']] && (cs.drop 2).head?.any (fun c => (digitIn 16 c).isSome)
          then cs.drop 2 else cs)
      else match cs with
        | '0' :: x :: c :: more =>
          if (x == 'x' || x == 'X') && (digitIn 16 c).isSome then (16, c :: more) else (8, cs)
        | '0' :: _ => (8, cs)
        | _ => (10, cs)
    let (value, rest) := leadingDigits base cs
    let value? : Option Nat := match value with
      | some v => some v
      | none => if rest.head?.any (units.contains ·) then some 1 else none
    match value? with
    | none => .error .invalid
    | some v =>
      match rest with
      | [] => if v < Nat.pow 2 64 then .ok v else .error .tooLarge
      | u :: _ =>
        if !units.contains u then .error .badSuffix
        else match scaleBySuffix units v rest with
          | none => .error .badSuffix
          | some w => if w < Nat.pow 2 64 then .ok w else .error .tooLarge

def countUnits : String := "bEGKkMmPQRTYZ0"

def readOldOffset (s : String) : Option Nat :=
  let body := if s.startsWith "+" then (s.drop 1).toString else s
  if s.isEmpty then none
  else match body.splitOn "." with
    | [whole, unit] => if unit.length ≤ 1 then (readOptionCount 10 "Bb" (whole ++ unit)).toOption else none
    | [_] => (readOptionCount (if body.startsWith "0x" || body.startsWith "0X" then 16 else 8) "Bb" body).toOption
    | _ => none

def odSyntax : OptionSyntax :=
  { flags := "abcdDeFfhHiIlLoOBsxXv".toList,
    valued := ['A', 'j', 'N', 't', 'w', 'S', longOnly 1], optional := [longOnly 2],
    long := [("address-radix", 'A'), ("endian", longOnly 1), ("format", 't'), ("output-duplicates", 'v'),
             ("read-bytes", 'N'), ("skip-bytes", 'j'), ("strings", longOnly 2), ("width", 'w')] }

def oldDumpFormat : Char → List DumpFormat
  | 'a' => [{ kind := .named, size := 1 }]
  | 'b' => [{ kind := .octal, size := 1 }]
  | 'c' => [{ kind := .char, size := 1 }]
  | 'd' => [{ kind := .unsigned, size := 2 }]
  | 'D' => [{ kind := .unsigned, size := 4 }]
  | 'i' => [{ kind := .signed, size := 4 }]
  | 'l' | 'I' | 'L' => [{ kind := .signed, size := 8 }]
  | 'o' | 'B' => [{ kind := .octal, size := 2 }]
  | 'O' => [{ kind := .octal, size := 4 }]
  | 's' => [{ kind := .signed, size := 2 }]
  | 'x' | 'h' => [{ kind := .hex, size := 2 }]
  | 'X' | 'H' => [{ kind := .hex, size := 4 }]
  | 'f' => [{ kind := .float, size := 4 }]
  | 'e' | 'F' => [{ kind := .float, size := 8 }]
  | _ => []

def namedAs (args : List String) (letter : Char) (name : String) : String :=
  let given := args.filter fun a =>
    (a.startsWith "--" && a.length > 2 && name.startsWith (((a.drop 2).toString.splitOn "=").headD "")) ||
    (a.startsWith "-" && !a.startsWith "--" && a.contains letter)
  match given.getLast? with
  | some a => if a.startsWith "--" then "--" ++ name else "-" ++ String.singleton letter
  | none => "-" ++ String.singleton letter

def odTool (t : ToolInput) (args : List String) : ToolOutcome :=
  let words := args.map fun a =>
    if a == "-w" then "--width=32"
    else if a.startsWith "-w" then "--width=" ++ (a.drop 2).toString
    else a
  match odSyntax.read words with
  | .error e => t.fail (e.message "od") 1
  | .ok o =>
    let formats : Except String (List DumpFormat) := o.given.foldlM (fun acc (c, v) =>
      if c == 't' then (readDumpFormats v).map (acc ++ ·) else .ok (acc ++ oldDumpFormat c)) []
    let radix : Except String (Option Nat) := match o.last? 'A' with
      | none | some "o" => .ok (some 8)
      | some "d" => .ok (some 10)
      | some "x" => .ok (some 16)
      | some "n" => .ok none
      | some r =>
        if r.length == 1 then
          .error ("invalid output address radix '" ++ r ++ "'; it must be one character from [doxn]")
        else .error ("invalid argument " ++ quoteText r ++ " for --address-radix")
    let count (c : Char) (name : String) (v : String) : Except String Nat :=
      (readOptionCount 0 countUnits v).mapError (·.message (namedAs args c name) v)
    let endian : Except String Bool := match o.last? (longOnly 1) with
      | none | some "little" => .ok false
      | some "big" => .ok true
      | some w => .error ("invalid argument " ++ quoteText w ++ " for " ++ quoteText "--endian" ++
          "\nValid arguments are:\n  - " ++ quoteText "big" ++ "\n  - " ++ quoteText "little")
    let modern := o.given.any fun (c, _) => "AjNStvw".toList.contains c || c == longOnly 2
    let settings : Except String (DumpSettings × Nat × Option Nat × Option Nat) := do
      let big ← endian
      let formats ← formats
      let formats := if formats.isEmpty then [{ kind := .octal, size := 2 }] else formats
      let radix ← radix
      let (skip, limit, least) ← o.given.foldlM (fun (acc : Nat × Option Nat × Option Nat) (c, v) =>
        let (skip, limit, least) := acc
        if c == 'j' then return (← count 'j' "skip-bytes" v, limit, least)
        else if c == 'N' then return (skip, some (← count 'N' "read-bytes" v), least)
        else if c == 'S' || c == longOnly 2 then
          if v.isEmpty then return (skip, limit, some 3)
          else return (skip, limit, some (← count 'S' "strings" v))
        else if c == 'w' then do
          let _ ← (readOptionCount 10 "" v).mapError (·.message (namedAs args 'w' "width") v)
          return acc
        else return acc) (0, none, none)
      let perLine := match o.last? 'w' with
        | none => 16
        | some w => (readOptionCount 10 "" w).toOption.getD 0
      return ({ formats, radix, perLine, all := o.has 'v', big }, skip, limit, least)
    match settings with
    | .error e => t.fail ("od: " ++ e ++ "\n") 1
    | .ok (s, skip, limit, least) =>
      let unit := s.formats.foldl (fun l f => Nat.lcm l f.size) 1
      let (s, r) : DumpSettings × Report :=
        if s.perLine != 0 && s.perLine % unit == 0 then (s, {})
        else ({ s with perLine := unit }, ({} : Report).note ("od: warning: invalid width " ++ toString s.perLine ++
          "; using " ++ toString unit ++ " instead\n"))
      let (names, skip) : List String × Nat :=
        if modern then (o.operands, skip)
        else match o.operands with
          | [a] => if a.startsWith "+" then
              match readOldOffset a with
              | some n => ([], n)
              | none => (o.operands, skip)
            else (o.operands, skip)
          | [f, a] => if a.startsWith "+" || a.front.isDigit then
              match readOldOffset a with
              | some n => ([f], n)
              | none => (o.operands, skip)
            else (o.operands, skip)
          | _ => (o.operands, skip)
      let names := if names.isEmpty then ["-"] else names
      let (text, r, _) := names.foldl (fun (acc : String × Report × Bool) n =>
        let (text, r, inputRead) := acc
        let content := if n == "-" then .ok (if inputRead then "" else t.input) else t.read n
        match content with
        | .ok more => (text ++ more, r, inputRead || n == "-")
        | .error why => (text, r.warn ("od: " ++ n ++ ": " ++ why ++ "\n"), inputRead)) ("", r, false)
      let bytes := text.toList.map Char.toNat
      if skip > bytes.length then
        { t.finish (r.warn "od: cannot skip past end of combined input\n") with }
      else
        let bytes := bytes.drop skip
        let bytes := match limit with
          | some n => bytes.take n
          | none => bytes
        match least with
        | some n => t.finish (r.say (s.strings n skip bytes))
        | none => t.finish (r.say (s.dump skip bytes))

end Shell
end JuryCaptions
