import JuryCaptions.Shell.Syntax
import JuryCaptions.Shell.Classes
/-!
Parameters, field splitting and patterns. A parameter is `$0`, `$1`, …, `$#`,
`$?`, `$$`, `$!`, `$-`, `$@`, `$*` or a variable.
-/

namespace JuryCaptions
namespace Shell

structure Params where
  arg0 : String
  positional : List String
  vars : List (String × String)
  status : Nat
  pid : Nat
  /-- The variables passed on to the programs the shell starts. -/
  exported : List String := []
  /-- The variables that may not be changed. -/
  readonly : List String := []
  lastBackground : Option Nat := none
  /-- The letters of the options that are set. -/
  flags : String := ""
  deriving Inhabited

/-- The letters of the options in the order of the shell's table of options;
`$-` lists the options that are set from the end of this order. -/
def optionOrder : List Char := "efIimnsxvVECabup".toList

def Params.lookup (p : Params) (name : String) : Option String :=
  match name with
  | "0" => some p.arg0
  | "#" => some (toString p.positional.length)
  | "?" => some (toString p.status)
  | "$" => some (toString p.pid)
  | "@" => if p.positional.isEmpty then none else some (" ".intercalate p.positional)
  | "*" => if p.positional.isEmpty then none else some (" ".intercalate p.positional)
  | "!" => p.lastBackground.map toString
  | "-" => some (String.ofList (optionOrder.reverse.filter fun c => p.flags.toList.contains c))
  | _ =>
    if !name.isEmpty && name.all Char.isDigit then
      match name.toNat? with
      | some 0 => some p.arg0
      | some n => p.positional[n - 1]?
      | none => none
    else (p.vars.find? (·.1 == name)).map (·.2)

def Params.value (p : Params) (name : String) : String := (p.lookup name).getD ""

def Params.ifs (p : Params) : List Char := ((p.lookup "IFS").getD " \t\n").toList

inductive Origin where
  /-- Unquoted text written in the word. -/
  | literal
  /-- Quoted text, or the result of a quoted expansion. -/
  | quoted
  /-- The result of an unquoted expansion. -/
  | expanded
  deriving Repr, Inhabited, BEq

inductive Seg where
  | text (s : String) (origin : Origin)
  /-- The break between two fields of `"$@"`. -/
  | brk
  deriving Repr, Inhabited, BEq

/-- Fields being built: the finished ones, the one in progress, and whether the
last character read was a separator other than a blank (or none was read). -/
structure Fields where
  done : List (List (Char × Bool)) := []
  current : Option (List (Char × Bool)) := none
  afterSeparator : Bool := true

namespace Fields

def add (f : Fields) (cs : List (Char × Bool)) : Fields :=
  { f with current := some (f.current.getD [] ++ cs), afterSeparator := false }

def close (f : Fields) : Fields :=
  match f.current with
  | some c => { f with done := f.done ++ [c], current := none }
  | none => f

def isWhite (c : Char) : Bool := c == ' ' || c == '\t' || c == '\n'

def addSplitChar (ifs : List Char) (f : Fields) (c : Char) : Fields :=
  if !ifs.contains c then f.add [(c, true)]
  else if isWhite c then
    if f.current.isSome then { f.close with afterSeparator := false } else f
  else if f.current.isSome then { f.close with afterSeparator := true }
  else if f.afterSeparator then { f with done := f.done ++ [[]] }
  else { f with afterSeparator := true }

def addSplit (ifs : List Char) (f : Fields) (v : String) : Fields := v.toList.foldl (addSplitChar ifs) f

def addSeg (ifs : List Char) (f : Fields) : Seg → Fields
  | .text s .expanded => f.addSplit ifs s
  | .text s origin => f.add (s.toList.map (·, origin != .quoted))
  | .brk => { f.close with afterSeparator := false }

end Fields

def patternFieldsOf (ifs : List Char) (segs : List Seg) : List (List (Char × Bool)) :=
  (segs.foldl (Fields.addSeg ifs) {}).close.done

def textOf (segs : List Seg) : String :=
  String.join (segs.map fun
    | .text s _ => s
    | .brk => " ")

def patternOf (segs : List Seg) : List (Char × Bool) :=
  segs.flatMap fun
    | .text s origin => s.toList.map fun c => (c, origin != .quoted)
    | .brk => [(' ', false)]

inductive GlobAtom where
  /-- `*`: any text. -/
  | star
  /-- `?`: any one character. -/
  | one
  /-- `[…]`: one character of the ranges, or of none of them. -/
  | set (ranges : List (Char × Char)) (negate : Bool)
  /-- A character that matches itself. -/
  | char (c : Char)
  deriving Repr, Inhabited

/-- Reads the members of a bracket set up to its closing `]`: the ranges, and the
pattern after it, or `none` when the set is not closed. -/
def setMembers : Nat → List (Char × Bool) → Bool → Option (List (Char × Char) × List (Char × Bool))
  | 0, _, _ => none
  | _ + 1, [], _ => none
  | f + 1, (']', special) :: rest, first =>
    if first || !special then (setMembers f rest false).map fun (rs, after) => ((']', ']') :: rs, after)
    else some ([], rest)
  | f + 1, ('[', true) :: (':', true) :: rest, _ =>
    let name := rest.takeWhile fun (c, _) => c != ':'
    match rest.drop name.length with
    | (':', _) :: (']', _) :: more =>
      (setMembers f more false).map fun (rs, after) => (classRanges (String.ofList (name.map (·.1))) ++ rs, after)
    | _ => (setMembers f ((':', true) :: rest) false).map fun (rs, after) => (('[', '[') :: rs, after)
  | f + 1, (a, _) :: ('-', _) :: (b, special) :: rest, _ =>
    if b == ']' && special then
      (setMembers f ((b, special) :: rest) false).map fun (rs, after) => ((a, a) :: ('-', '-') :: rs, after)
    else (setMembers f rest false).map fun (rs, after) => ((a, b) :: rs, after)
  | f + 1, (a, _) :: rest, _ => (setMembers f rest false).map fun (rs, after) => ((a, a) :: rs, after)

def readSet (ps : List (Char × Bool)) : Option (GlobAtom × List (Char × Bool)) :=
  let (negate, ps) := match ps with
    | ('!', true) :: rest => (true, rest)
    | ('^', true) :: rest => (true, rest)
    | _ => (false, ps)
  (setMembers (ps.length + 1) ps true).map fun (ranges, after) => (.set ranges negate, after)

def compile : Nat → List (Char × Bool) → List GlobAtom
  | 0, _ => []
  | _ + 1, [] => []
  | f + 1, ('*', true) :: ps => .star :: compile f ps
  | f + 1, ('?', true) :: ps => .one :: compile f ps
  | f + 1, ('[', true) :: ps =>
    match readSet ps with
    | some (a, after) => a :: compile f after
    | none => .char '[' :: compile f ps
  | f + 1, ('\\', true) :: (c, _) :: ps => .char c :: compile f ps
  | f + 1, (c, _) :: ps => .char c :: compile f ps

def GlobAtom.takes (a : GlobAtom) (c : Char) : Bool :=
  match a with
  | .star => true
  | .one => true
  | .set ranges negate => ranges.any (fun (lo, hi) => lo ≤ c && c ≤ hi) != negate
  | .char d => c == d

def matchAtoms : List GlobAtom → List Char → Bool
  | [], s => s.isEmpty
  | .star :: as, s => (List.range (s.length + 1)).any fun k => matchAtoms as (s.drop k)
  | a :: as, s =>
    match s with
    | c :: rest => a.takes c && matchAtoms as rest
    | [] => false

def globMatch (pattern : List (Char × Bool)) (s : String) : Bool :=
  matchAtoms (compile (pattern.length + 1) pattern) s.toList

def trimPrefix (pattern : List (Char × Bool)) (longest : Bool) (s : String) : String :=
  let atoms := compile (pattern.length + 1) pattern
  let cs := s.toList
  let lengths := if longest then (List.range (cs.length + 1)).reverse else List.range (cs.length + 1)
  match lengths.find? fun k => matchAtoms atoms (cs.take k) with
  | some k => String.ofList (cs.drop k)
  | none => s

def trimSuffix (pattern : List (Char × Bool)) (longest : Bool) (s : String) : String :=
  let atoms := compile (pattern.length + 1) pattern
  let cs := s.toList
  let lengths := if longest then (List.range (cs.length + 1)).reverse else List.range (cs.length + 1)
  match lengths.find? fun k => matchAtoms atoms (cs.drop (cs.length - k)) with
  | some k => String.ofList (cs.take (cs.length - k))
  | none => s

end Shell
end JuryCaptions
