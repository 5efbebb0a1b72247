import JuryCaptions.CommandLine.Flags
import JuryCaptions.Text.Case
import JuryCaptions.Text.Utf8
/-!
Command trees: the first word that is no flag and names a subcommand hands it
the rest. A root with subcommands takes no other argument, suggesting close
names. A command's flags are its own, its ancestors' persistent ones and `-h`.
-/

namespace JuryCaptions
namespace CommandLine

inductive ArgRule where
  /-- Any number; on the root of a tree, a first argument must name a subcommand. -/
  | unchecked
  /-- None: a first argument is taken for an unknown subcommand. -/
  | none
  | atMost (n : Nat)
  | between (lo hi : Nat)
  deriving Repr, Inhabited

/-- What completing a command's arguments offers besides its subcommands. -/
inductive ArgCompletion where
  /-- Nothing, leaving the shell to offer file names. -/
  | files
  /-- Nothing, and no file names either. -/
  | nothing
  /-- The subcommands of the command the arguments name, as help does. -/
  | commands
  deriving Repr, Inhabited, BEq

structure Spec where
  /-- The usage line: the name, then what the arguments are. -/
  use : String
  short : String := ""
  long : String := ""
  flags : List Flag := []
  /-- Flags every subcommand takes as well. -/
  persistent : List Flag := []
  args : ArgRule := .unchecked
  runnable : Bool := true
  hidden : Bool := false
  /-- Whether this is the command that prints other commands' help: it is
  listed but never suggested. -/
  helpTopics : Bool := false
  /-- Other names the command answers to. -/
  aliases : List String := []
  argCompletion : ArgCompletion := .files
  deriving Repr, Inhabited

/-- A command and its subcommands, in the order they were added. -/
inductive Command where
  | node (spec : Spec) (subcommands : List Command)
  deriving Inhabited

/-- The name of a command: the first word of its usage line. -/
def Spec.name (s : Spec) : String := (s.use.splitOn " ").headD ""

def Command.spec : Command → Spec
  | .node s _ => s

def Command.subcommands : Command → List Command
  | .node _ subs => subs

def Command.name (c : Command) : String := c.spec.name

/-- Whether a command answers to a word: its name or one of its aliases. -/
def Command.answers (c : Command) (word : String) : Bool := c.name == word || c.spec.aliases.contains word

mutual

/-- Whether a command is offered: shown, not the help command, and able to run
or holding a subcommand that is offered. -/
def Command.available : Command → Bool
  | .node s subs => !s.hidden && !s.helpTopics && (s.runnable || anyAvailable subs)

def anyAvailable : List Command → Bool
  | [] => false
  | c :: cs => c.available || anyAvailable cs

end

/-- A command with the chain of commands above it, the root first. -/
structure Place where
  ancestors : List Command
  command : Command
  deriving Inhabited

namespace Place

def path (p : Place) : String := " ".intercalate ((p.ancestors ++ [p.command]).map (·.name))

def inherited (p : Place) : List Flag := p.ancestors.reverse.flatMap (·.spec.persistent)

def own (p : Place) : List Flag := p.command.spec.flags ++ p.command.spec.persistent

def flags (p : Place) : List Flag := p.own ++ p.inherited

/-- The help flag, `-h` unless that letter is taken. -/
def helpFlag (p : Place) : Flag :=
  { name := "help", short := if p.flags.any (·.short == some 'h') then none else some 'h',
    kind := .truth, default := "false", usage := "help for " ++ p.command.name }

def allFlags (p : Place) : List Flag :=
  if p.flags.any (·.name == "help") then p.flags else p.flags ++ [p.helpFlag]

def down (p : Place) (sub : Command) : Place := ⟨p.ancestors ++ [p.command], sub⟩

end Place

/-- The command line without its first word that is `word` and neither a flag
nor a flag's value. -/
def withoutWord (flags : List Flag) (word : String) : List String → List String
  | [] => []
  | s :: rest =>
    if s == "--" then s :: rest
    else
      if takesValue flags s then
        match rest with
        | v :: more => s :: v :: withoutWord flags word more
        | [] => [s]
      else if !s.startsWith "-" && s == word then rest
      else s :: withoutWord flags word rest

/-- Goes down the tree along the subcommands a command line names: the command
reached and the line left for it. -/
def descend : Nat → Place → List String → Place × List String
  | 0, p, args => (p, args)
  | n + 1, p, args =>
    match nonFlagWords p.flags (args.length + 1) args with
    | [] => (p, args)
    | w :: _ =>
      match p.command.subcommands.find? (·.answers w) with
      | some sub => descend n (p.down sub) (withoutWord p.flags w args)
      | none => (p, args)

/-- One row of the edit-distance table, for the next letter `a` of the first word. -/
def nextRow (a : UInt8) : List UInt8 → List Nat → Nat → List Nat
  | b :: bs, diag :: up :: ups, left =>
    let v := if a == b then diag else min (min up left) diag + 1
    v :: nextRow a bs (up :: ups) v
  | _, _, _ => []

/-- The number of byte insertions, deletions and changes that turn one text
into another. -/
def editDistance (s t : String) : Nat :=
  let ts := Utf8.encode t
  let last := (Utf8.encode s).zipIdx.foldl (fun row (a, i) => (i + 1) :: nextRow a ts row (i + 1))
    (List.range (ts.length + 1))
  last.getLastD 0

def suggestions (c : Command) (typed : String) : List String :=
  let typed := Case.lower typed
  c.subcommands.filterMap fun sub =>
    let name := Case.lower sub.name
    if sub.available && (editDistance typed name ≤ 2 || name.startsWith typed) then some sub.name else none

def unknownCommand (p : Place) (word : String) : String :=
  let hints := suggestions p.command word
  "unknown command " ++ Quote.quoted word ++ " for " ++ Quote.quoted p.path ++
    (if hints.isEmpty then "" else "\n\nDid you mean this?\n" ++ String.join (hints.map fun h => "\t" ++ h ++ "\n"))

def find (root : Command) (args : List String) : Except (Place × String) (Place × List String) :=
  let (p, rest) := descend (args.length + 1) ⟨[], root⟩ args
  match p.command.spec.args, p.ancestors, nonFlagWords p.flags (rest.length + 1) rest with
  | .unchecked, [], w :: _ =>
    if p.command.subcommands.isEmpty then .ok (p, rest) else .error (p, unknownCommand p w)
  | _, _, _ => .ok (p, rest)

def checkArgs (p : Place) (args : List String) : Except String Unit :=
  match p.command.spec.args with
  | .unchecked => .ok ()
  | .none =>
    match args with
    | a :: _ => .error ("unknown command " ++ Quote.quoted a ++ " for " ++ Quote.quoted p.path)
    | [] => .ok ()
  | .atMost n =>
    if args.length > n then
      .error ("accepts at most " ++ toString n ++ " arg(s), received " ++ toString args.length)
    else .ok ()
  | .between lo hi =>
    if args.length < lo || args.length > hi then
      .error ("accepts between " ++ toString lo ++ " and " ++ toString hi ++ " arg(s), received " ++
        toString args.length)
    else .ok ()

inductive Request where
  /-- The help of a command. -/
  | help (p : Place)
  /-- Running a command with its flags and arguments. -/
  | run (p : Place) (flags : Parsed) (args : List String)
  deriving Inhabited

/-- What a command line asks of the command it names, once its flags are read
and its arguments checked, or why it is wrong. -/
def prepare (p : Place) (rest : List String) : Except String Request := do
  let parsed ← Parsed.of p.allFlags rest
  if parsed.help || parsed.bool p.helpFlag || !p.command.spec.runnable then return .help p
  checkArgs p parsed.args
  return .run p parsed parsed.args

/-- Reads a command line against a tree: what it asks for, or why it is wrong. -/
def request (root : Command) (args : List String) : Except String Request := do
  let (p, rest) ← (find root args).mapError (·.2)
  prepare p rest

end CommandLine
end JuryCaptions
