import JuryCaptions.Number.Whole
import JuryCaptions.Text.Quote
/-!
Command-line flags: `--name=value`, `--name value`, `-n value`, `-nvalue` or
`-n=value`; a truth flag alone means true, and short truth flags may share a
dash. A lone `-` is an argument and `--` ends the flags. Whole numbers take a
base prefix and fit in 64 bits. `-h` and `--help` ask for help unless declared.
-/

namespace JuryCaptions
namespace CommandLine

inductive FlagKind where
  | text
  | whole
  | truth
  deriving Repr, BEq, Inhabited

structure Flag where
  name : String
  short : Option Char := none
  kind : FlagKind
  default : String
  usage : String
  deriving Repr, Inhabited

/-- The name of a flag in messages: `-w, --width` or `--section`. -/
def Flag.display (f : Flag) : String :=
  match f.short with
  | some c => "-" ++ String.singleton c ++ ", --" ++ f.name
  | none => "--" ++ f.name

structure Parsed where
  /-- The values set, by long name, last one first. -/
  values : List (String × String) := []
  args : List String := []
  help : Bool := false
  deriving Inhabited

def checkValue (f : Flag) (v : String) : Except String Unit :=
  let bad (fn why : String) : Except String Unit :=
    .error ("invalid argument " ++ Quote.quoted v ++ " for " ++ Quote.quoted f.display ++ " flag: strconv." ++
      fn ++ ": parsing " ++ Quote.quoted v ++ ": " ++ why)
  match f.kind with
  | .text => .ok ()
  | .whole =>
    match NumberText.readIntPrefixed v with
    | .ok _ => .ok ()
    | .error e => bad "ParseInt" e.describe
  | .truth =>
    match NumberText.readBool v with
    | some _ => .ok ()
    | none => bad "ParseBool" "invalid syntax"

def helpFlag : Flag := { name := "help", short := some 'h', kind := .truth, default := "false", usage := "" }

/-- Records a flag's value; the help flag asks for help when it is true. -/
def Parsed.set (p : Parsed) (f : Flag) (v : String) : Except String Parsed := do
  checkValue f v
  let help := if f.name == "help" then NumberText.readBool v == some true else p.help
  pure { p with values := (f.name, v) :: p.values, help }

/-- A one-letter flag as unknown-flag messages show it: the first byte of its
encoding read as a character, so a letter beyond ASCII always shows as `Ã`. -/
def shownShort (c : Char) : Char := if c.toNat < 0x80 then c else 'Ã'

/-- Reads one-letter flags after a dash: the arguments left. Messages name the
letters not yet read. -/
def readShorts (flags : List Flag) : Nat → List Char → List String → Parsed →
    Except String (List String × Parsed)
  | 0, _, rest, p => .ok (rest, p)
  | _ + 1, [], rest, p => .ok (rest, p)
  | n + 1, c :: more, rest, p =>
    let left := String.ofList (c :: more)
    let found := match flags.find? (·.short == some c) with
      | some f => some f
      | none => if c == 'h' then some helpFlag else none
    if left.startsWith "test." then .ok (rest, p)
    else match found with
    | none => .error ("unknown shorthand flag: " ++ Quote.quotedChar (shownShort c) ++ " in -" ++ left)
    | some f =>
      match more with
      | '=' :: v :: vs => do
        let p ← p.set f (String.ofList (v :: vs))
        pure (rest, p)
      | _ =>
        if f.kind == .truth then do
          let p ← p.set f "true"
          readShorts flags n more rest p
        else if !more.isEmpty then do
          let p ← p.set f (String.ofList more)
          pure (rest, p)
        else
          match rest with
          | v :: after => do
            let p ← p.set f v
            pure (after, p)
          | [] => .error ("flag needs an argument: " ++ Quote.quotedChar c ++ " in -" ++ left)

/-- Reads a long flag `--name[=value]`: the arguments left. -/
def readLong (flags : List Flag) (s : String) (rest : List String) (p : Parsed) :
    Except String (List String × Parsed) :=
  let body := (s.drop 2).toString
  if body.isEmpty || body.startsWith "-" || body.startsWith "=" then .error ("bad flag syntax: " ++ s)
  else
    let name := (body.splitOn "=").headD ""
    let value? := if body.contains '=' then some ((body.drop (name.length + 1)).toString) else none
    let found := match flags.find? (·.name == name) with
      | some f => some f
      | none => if name == "help" then some helpFlag else none
    match found with
    | none => .error ("unknown flag: --" ++ name)
    | some f =>
      match value? with
      | some v => do
        let p ← p.set f v
        pure (rest, p)
      | none =>
        if f.kind == .truth then do
          let p ← p.set f "true"
          pure (rest, p)
        else match rest with
          | v :: after => do
            let p ← p.set f v
            pure (after, p)
          | [] => .error ("flag needs an argument: " ++ s)

def parseFlags (flags : List Flag) : Nat → List String → Parsed → Except String Parsed
  | 0, _, p => .ok p
  | _ + 1, [], p => .ok p
  | n + 1, s :: rest, p =>
    if s == "--" then .ok { p with args := p.args ++ rest }
    else if s.startsWith "--" then do
      let (rest, p) ← readLong flags s rest p
      parseFlags flags n rest p
    else if s.startsWith "-" && s.length > 1 then do
      let cs := (s.drop 1).toString
      let (rest, p) ← readShorts flags (cs.length + 1) cs.toList rest p
      parseFlags flags n rest p
    else parseFlags flags n rest { p with args := p.args ++ [s] }

def Parsed.of (flags : List Flag) (args : List String) : Except String Parsed :=
  parseFlags flags (args.length + 1) args {}

/-- The value of a flag: the last one set, or its default. -/
def Parsed.get (p : Parsed) (f : Flag) : String :=
  ((p.values.find? (·.1 == f.name)).map (·.2)).getD f.default

def Parsed.changed (p : Parsed) (f : Flag) : Bool := p.values.any (·.1 == f.name)

def Parsed.int (p : Parsed) (f : Flag) : Int :=
  match NumberText.readIntPrefixed (p.get f) with
  | .ok n => n
  | .error _ => 0

def Parsed.bool (p : Parsed) (f : Flag) : Bool := (NumberText.readBool (p.get f)).getD false

/-- Whether a word is a flag that takes the next word as its value: one without
`=` that is not a truth flag. -/
def takesValue (flags : List Flag) (s : String) : Bool :=
  if s.startsWith "--" && !s.contains '=' then
    !((flags.find? (·.name == (s.drop 2).toString)).any (·.kind == .truth))
  else if s.startsWith "-" && !s.contains '=' && s.length == 2 then
    !((flags.find? (·.short == (s.toList.drop 1).head?)).any (·.kind == .truth))
  else false

/-- The words that are not flags or their values, to find the subcommand: a
flag without `=` takes the next word unless a truth flag or last but one. -/
def nonFlagWords (flags : List Flag) : Nat → List String → List String
  | 0, _ => []
  | _ + 1, [] => []
  | n + 1, s :: rest =>
    if s == "--" then []
    else
      if takesValue flags s then
        match rest with
        | _ :: more => if rest.length ≤ 1 then [] else nonFlagWords flags n more
        | [] => []
      else if s != "" && !s.startsWith "-" then s :: nonFlagWords flags n rest
      else nonFlagWords flags n rest

end CommandLine
end JuryCaptions
