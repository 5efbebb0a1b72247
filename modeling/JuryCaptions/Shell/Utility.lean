import JuryCaptions.System.Files
/-!
The system programs scripts call on. A program takes its arguments, the file
tree, the working directory and its standard input.
-/

namespace JuryCaptions
namespace Shell

structure ToolInput where
  /-- The name it was started by, which its messages begin with. -/
  name : String := ""
  files : Files
  cwd : String
  /-- Its standard input. -/
  input : String
  /-- The size of its standard input when that is a regular file. -/
  inputSize : Option Nat := none
  /-- What a command line run by the shell writes on its output. -/
  shell : String → String := fun _ => ""
  /-- The file creation mask: the permission bits new files do not get. -/
  mask : Nat := 18

structure ToolOutcome where
  /-- What it wrote, in order, each piece with its descriptor. -/
  writes : List (Nat × String) := []
  status : Nat := 0
  files : Files
  deriving Inhabited

/-- What a program has written so far, and whether anything failed. -/
structure Report where
  writes : List (Nat × String) := []
  failed : Bool := false
  deriving Inhabited

namespace Report

def say (r : Report) (s : String) : Report :=
  if s.isEmpty then r else { r with writes := r.writes ++ [(1, s)] }

def warn (r : Report) (s : String) : Report := { r with writes := r.writes ++ [(2, s)], failed := true }

def note (r : Report) (s : String) : Report := { r with writes := r.writes ++ [(2, s)] }

end Report

namespace ToolInput

def resolve (t : ToolInput) (path : String) : String :=
  if path.startsWith "/" then Path.clean path else Path.join [t.cwd, path]

def read (t : ToolInput) (path : String) : Except String String :=
  if t.resolve path == "/dev/null" then .ok "" else
  match t.files.lookup (t.resolve path) with
  | .ok (.file text _) => .ok text
  | .ok (.tool _) => .ok ""
  | .ok .dir => .error "Is a directory"
  | .error "not a directory" => .error "Not a directory"
  | .error _ => .error "No such file or directory"

def source (t : ToolInput) (name : String) : Except String String :=
  if name == "-" then .ok t.input else t.read name

/-- The tree with a path just made given the bits of `full` the creation mask
leaves, recorded when they differ from its kind's. -/
def made (t : ToolInput) (fs : Files) (path : String) (full : Nat) : Files :=
  let m := full &&& (0o7777 ^^^ t.mask)
  match fs.get? path with
  | some e => if m == e.defaultMode then fs else fs.setMode path m
  | none => fs

def done (t : ToolInput) (out : String) : ToolOutcome :=
  { writes := if out.isEmpty then [] else [(1, out)], files := t.files }

def fail (t : ToolInput) (err : String) (status : Nat) : ToolOutcome :=
  { writes := [(2, err)], status, files := t.files }

def finish (t : ToolInput) (r : Report) (failStatus : Nat := 1) : ToolOutcome :=
  { writes := r.writes, status := if r.failed then failStatus else 0, files := t.files }

end ToolInput

/-! ## Quoting in messages -/

def quoteText (s : String) : String :=
  String.ofList [Char.ofNat 0xE2, Char.ofNat 0x80, Char.ofNat 0x98] ++ s ++
    String.ofList [Char.ofNat 0xE2, Char.ofNat 0x80, Char.ofNat 0x99]

def quoteName (s : String) : String := "'" ++ "'\\''".intercalate (s.splitOn "'") ++ "'"

/-- A name as messages show a file they read: as it is, unless it is empty or
holds a character the shell would read specially, when it is quoted. -/
def shownName (s : String) : String :=
  if s.isEmpty || s.any (fun c => " \t\n'\"\\$*?[]{}()<>|&;#~!^=".toList.contains c || c.toNat < 32) then
    quoteName s
  else s

/-- The letter of a control character's backslash escape, as `n` for a newline. -/
def controlLetter (c : Char) : Option Char :=
  match c with
  | '\x07' => some 'a'
  | '\x08' => some 'b'
  | '\x0c' => some 'f'
  | '\n' => some 'n'
  | '\r' => some 'r'
  | '\t' => some 't'
  | '\x0b' => some 'v'
  | _ => none

/-- A byte as a backslash and three octal digits. -/
def octalEscape (n : Nat) : String :=
  "\\" ++ String.ofList [Char.ofNat (48 + n / 64 % 8), Char.ofNat (48 + n / 8 % 8), Char.ofNat (48 + n % 8)]

def tryHelp (tool : String) : String := "Try '" ++ tool ++ " --help' for more information.\n"

def missingOperand (tool : String) : String := tool ++ ": missing operand\n" ++ tryHelp tool

def extraOperand (tool arg : String) : String := tool ++ ": extra operand " ++ quoteText arg ++ "\n" ++ tryHelp tool

/-! ## Options -/

structure OptionSyntax where
  /-- The letters that take no value. -/
  flags : List Char := []
  /-- The letters that take a value. -/
  valued : List Char := []
  /-- Long names, each standing for a letter. -/
  long : List (String × Char) := []
  /-- The letters whose long names take a value only after `=`; given as a
  letter, or by the long name alone, their value is empty. -/
  optional : List Char := []
  /-- The letters whose value is optional and, given as a letter, the rest of
  its word; by a long name it is given only after `=`. -/
  attached : List Char := []
  /-- Whether the options stop at the first operand. -/
  inOrder : Bool := false
  /-- Whether a word of a dash and a digit or point is an operand, a negative number. -/
  numbers : Bool := false

inductive OptionError where
  | invalid (c : Char)
  | needsValue (c : Char)
  | unrecognized (word : String)
  | longNeedsValue (name : String)
  | longTakesNone (name : String)
  /-- A long option that begins more than one name, with those names in order. -/
  | ambiguous (word : String) (names : List String)
  deriving Repr, Inhabited

def OptionError.line (tool : String) : OptionError → String
  | .invalid c => tool ++ ": invalid option -- '" ++ String.singleton c ++ "'\n"
  | .needsValue c => tool ++ ": option requires an argument -- '" ++ String.singleton c ++ "'\n"
  | .unrecognized w => tool ++ ": unrecognized option '" ++ w ++ "'\n"
  | .longNeedsValue n => tool ++ ": option '--" ++ n ++ "' requires an argument\n"
  | .longTakesNone n => tool ++ ": option '--" ++ n ++ "' doesn't allow an argument\n"
  | .ambiguous w ns =>
    tool ++ ": option '" ++ w ++ "' is ambiguous; possibilities:" ++ String.join (ns.map fun n => " '--" ++ n ++ "'") ++
      "\n"

def OptionError.message (tool : String) (e : OptionError) : String := e.line tool ++ tryHelp tool

/-- The letter of the `k`-th option with only a long name: a private-use
character no argument spells by accident. -/
def longOnly (k : Nat) : Char := Char.ofNat (0xE000 + k)

/-- The options read, each letter with its value (empty for a flag) in order,
and the operands. -/
structure ReadOptions where
  given : List (Char × String) := []
  operands : List String := []
  deriving Inhabited

namespace ReadOptions

def has (r : ReadOptions) (c : Char) : Bool := r.given.any (·.1 == c)

def last? (r : ReadOptions) (c : Char) : Option String := ((r.given.filter (·.1 == c)).getLast?).map (·.2)

def all (r : ReadOptions) (c : Char) : List String := (r.given.filter (·.1 == c)).map (·.2)

/-- The operands, or `d` alone when there are none. -/
def operandsOr (r : ReadOptions) (d : String) : List String := if r.operands.isEmpty then [d] else r.operands

end ReadOptions

namespace OptionSyntax

def readLetters (s : OptionSyntax) : List Char → List String → List (Char × String) →
    Except OptionError (List (Char × String) × List String)
  | [], rest, acc => .ok (acc, rest)
  | c :: cs, rest, acc =>
    if s.attached.contains c then .ok (acc ++ [(c, String.ofList cs)], rest)
    else if s.valued.contains c then
      if !cs.isEmpty then .ok (acc ++ [(c, String.ofList cs)], rest)
      else match rest with
        | v :: more => .ok (acc ++ [(c, v)], more)
        | [] => .error (.needsValue c)
    else if s.flags.contains c || s.optional.contains c then readLetters s cs rest (acc ++ [(c, "")])
    else .error (.invalid c)

def readLong (s : OptionSyntax) (word : String) (rest : List String) :
    Except OptionError ((Char × String) × List String) :=
  let name := (word.splitOn "=").headD ""
  let value? : Option String := if word.contains '=' then some (word.drop (name.length + 1)).toString else none
  let found : Except OptionError (String × Char) := match s.long.find? (·.1 == name) with
    | some o => .ok o
    | none => match s.long.filter (·.1.startsWith name) with
      | [] => .error (.unrecognized ("--" ++ word))
      | o :: more =>
        if more.all (·.2 == o.2) then .ok o else .error (.ambiguous ("--" ++ word) ((o :: more).map (·.1)))
  match found with
  | .error e => .error e
  | .ok (name, c) =>
    if s.optional.contains c || s.attached.contains c then .ok ((c, value?.getD ""), rest)
    else if s.valued.contains c then
      match value?, rest with
      | some v, _ => .ok ((c, v), rest)
      | none, v :: more => .ok ((c, v), more)
      | none, [] => .error (.longNeedsValue name)
    else match value? with
      | some _ => .error (.longTakesNone name)
      | none => .ok ((c, ""), rest)

def readFrom (s : OptionSyntax) : Nat → List String → ReadOptions → Except OptionError ReadOptions
  | 0, rest, r => .ok { r with operands := r.operands ++ rest }
  | _ + 1, [], r => .ok r
  | f + 1, a :: rest, r =>
    if a == "--" then .ok { r with operands := r.operands ++ rest }
    else if a.startsWith "--" then do
      let (opt, rest) ← s.readLong (a.drop 2).toString rest
      s.readFrom f rest { r with given := r.given ++ [opt] }
    else
      let number := s.numbers && ((a.toList.drop 1).head?.any fun c => c.isDigit || c == '.')
      if a.startsWith "-" && a.length > 1 && !number then do
        let (given, rest) ← s.readLetters (a.toList.drop 1) rest r.given
        s.readFrom f rest { r with given }
      else if s.inOrder then .ok { r with operands := r.operands ++ a :: rest }
      else s.readFrom f rest { r with operands := r.operands ++ [a] }

def read (s : OptionSyntax) (args : List String) : Except OptionError ReadOptions :=
  s.readFrom (args.length + 1) args {}

end OptionSyntax

def readMethod (tool option : String) (valid : List String) (v : String) : Except String String :=
  match valid.filter (·.startsWith v) with
  | [m] => .ok m
  | ms =>
    let exact := valid.find? (· == v)
    match exact with
    | some m => .ok m
    | none =>
      .error (tool ++ ": " ++ (if ms.isEmpty || v.isEmpty then "invalid" else "ambiguous") ++ " argument " ++
        quoteText v ++ " for " ++ quoteText ("--" ++ option) ++ "\nValid arguments are:\n" ++
        String.join (valid.map fun m => "  - " ++ quoteText m ++ "\n") ++ tryHelp tool)

def readChoice (tool option : String) (groups : List (List String)) (v : String) : Except String String :=
  let hits := groups.filter fun g => g.any (·.startsWith v)
  match groups.find? (·.contains v), hits with
  | some g, _ => .ok (g.headD v)
  | none, [g] => .ok (g.headD v)
  | none, hs =>
    .error (tool ++ ": " ++ (if hs.isEmpty || v.isEmpty then "invalid" else "ambiguous") ++ " argument " ++
      quoteText v ++ " for " ++ quoteText ("--" ++ option) ++ "\nValid arguments are:\n" ++
      String.join (groups.map fun g => "  - " ++ ", ".intercalate (g.map quoteText) ++ "\n") ++ tryHelp tool)

/-! ## Lines -/

def linesOf (s : String) : List String :=
  let parts := s.splitOn "\n"
  let full := parts.dropLast.map (· ++ "\n")
  match parts.getLast? with
  | some "" => full
  | some last => full ++ [last]
  | none => []

def recordsWithEnd (eol : Char) (s : String) : List String :=
  let parts := s.splitOn (String.singleton eol)
  let full := parts.dropLast.map (·.push eol)
  match parts.getLast? with
  | some "" => full
  | some last => full ++ [last]
  | none => []

def lineBody (l : String) : String := if l.endsWith "\n" then (l.dropEnd 1).toString else l

def bodiesOf (s : String) : List String := (linesOf s).map lineBody

def splitRecords (eol : Char) (text : String) : List String × Bool :=
  let parts := text.splitOn (String.singleton eol)
  match parts.getLast? with
  | some "" => (parts.dropLast, true)
  | _ => (parts, text.isEmpty)

def splitLines (text : String) : List String × Bool := splitRecords '\n' text

def recordsOf (eol : Char) (text : String) : List String :=
  let parts := text.splitOn (String.singleton eol)
  if parts.getLast? == some "" then parts.dropLast else parts

def isSpaceChar (c : Char) : Bool :=
  c = ' ' || c = '\t' || c = '\n' || c = '\r' || c = '\x0b' || c = '\x0c'

def isBlankChar (c : Char) : Bool := c = ' ' || c = '\t'

/-! ## Amounts -/

/-- Why a number given to an option is refused. -/
inductive AmountFault where
  | invalid
  | tooLarge
  | outOfRange
  deriving BEq, Inhabited

def AmountFault.suffix : AmountFault → String
  | .invalid => ""
  | .tooLarge => ": Value too large for defined data type"
  | .outOfRange => ": Numerical result out of range"

def unitFactor (base : Nat) : Char → Option Nat
  | 'b' => some 512
  | 'B' => some 1024
  | 'c' => some 1
  | 'w' => some 2
  | 'k' | 'K' => some base
  | 'm' | 'M' => some (Nat.pow base 2)
  | 'g' | 'G' => some (Nat.pow base 3)
  | 't' | 'T' => some (Nat.pow base 4)
  | 'P' => some (Nat.pow base 5)
  | 'E' => some (Nat.pow base 6)
  | 'Z' => some (Nat.pow base 7)
  | 'Y' => some (Nat.pow base 8)
  | 'R' => some (Nat.pow base 9)
  | 'Q' => some (Nat.pow base 10)
  | _ => none

def scaleBySuffix (units : String) (value : Nat) (rest : List Char) : Option Nat :=
  match rest with
  | [] => some value
  | u :: more =>
    if !units.contains u then none
    else
      let (base, extra) : Nat × Nat :=
        if units.contains '0' then
          match more with
          | 'i' :: 'B' :: _ => (1024, 2)
          | 'B' :: _ | 'D' :: _ => (1000, 1)
          | _ => (1024, 0)
        else (1024, 0)
      if more.length != extra then none
      else (unitFactor base u).map (value * ·)

def readAmount (text : String) (signed : Bool) (units : String) : Except AmountFault Int :=
  let cs := text.toList.dropWhile isSpaceChar
  let (neg, body) := match cs with
    | '-' :: r => (true, r)
    | '+' :: r => (false, r)
    | r => (false, r)
  let digits := body.takeWhile Char.isDigit
  let rest := body.drop digits.length
  if neg && !signed then .error .invalid
  else if digits.isEmpty && !(rest.head?.any fun c => units.contains c) then .error .invalid
  else
    let value : Nat := if digits.isEmpty then 1 else digits.foldl (fun n d => 10 * n + (d.toNat - '0'.toNat)) 0
    match scaleBySuffix units value rest with
    | none => .error .invalid
    | some v =>
      let v : Int := if neg then -(v : Int) else v
      let fits := if signed then -(9223372036854775808 : Int) ≤ v ∧ v < 9223372036854775808
        else v < 18446744073709551616
      if fits then .ok v else .error .tooLarge

/-- Reads a number as `readAmount` does and requires it within `[lo, hi]`; one
outside is too large when it lies past about a billion either way. -/
def readBounded (text : String) (signed : Bool) (units : String) (lo hi : Int) : Except AmountFault Int :=
  match readAmount text signed units with
  | .error e => .error e
  | .ok v =>
    if lo ≤ v ∧ v ≤ hi then .ok v
    else if v > 1073741823 ∨ v < -1073741824 then .error .tooLarge
    else .error .outOfRange

end Shell
end JuryCaptions
