import JuryCaptions.CommandLine.Tree
import JuryCaptions.Text.Blank
/-!
Completing command lines for a shell. The hidden completion command prints the
candidates for the last place, each with its description after a tab, then the
directive: nothing for a flag's value, flags not yet given for a word with a
dash, inherited ones first, else subcommands, then the command's own.
-/

namespace JuryCaptions
namespace CommandLine

def sortFlags (fs : List Flag) : List Flag := fs.mergeSort fun a b => !(b.name < a.name)

def sortCommands (cs : List Command) : List Command := cs.mergeSort fun a b => !(b.name < a.name)

/-- Whether a word is written as a flag: `--` and a name, or a dash and a
letter other than a dash. -/
def isFlagWord (s : String) : Bool :=
  (s.utf8ByteSize ≥ 3 && s.startsWith "--") ||
    (s.utf8ByteSize ≥ 2 && s.startsWith "-" && !s.startsWith "--")

/-- The flag of a command that a name stands for: a single letter is a short
name. -/
def findFlag (p : Place) (name : String) : Option Flag :=
  if name.length = 1 then p.allFlags.find? (·.short == name.toList.head?)
  else p.allFlags.find? (·.name == name)

/-- The flag whose value the last word completes, if any; the words before it,
less that flag when it stands alone; the last word less any `--name=`; and the
failure for a flag the command does not take. -/
def valueOfFlag (p : Place) (args : List String) (last : String) :
    Option Flag × List String × String × Option String :=
  let cs := last.toList
  let written : Option (String × String) :=
    if cs.head? == some '-' then
      (cs.findIdx? (· = '=')).map fun i =>
        let key := cs.take i
        (if key.take 2 == ['-', '-'] then String.ofList (key.drop 2) else String.ofList (key.drop (i - 1)),
          String.ofList (cs.drop (i + 1)))
    else none
  if cs.head? == some '-' && written.isNone then (none, args, last, none)
  else
    let (name, value, withEqual) := match written with
      | some (n, v) => (n, v, true)
      | none => ("", last, false)
    let (name, trimmed) :=
      if !name.isEmpty then (name, args)
      else match args.getLast? with
        | some prev =>
          if isFlagWord prev && !prev.contains '=' then
            (if prev.startsWith "--" then (prev.drop 2).toString else (prev.toList.getLast?.map Char.toString).getD "",
              args.dropLast)
          else ("", args)
        | none => ("", args)
    if name.isEmpty then (none, trimmed, value, none)
    else
      match findFlag p name with
      | none =>
        (none, args, last, some ("Subcommand '" ++ p.command.name ++ "' does not support flag '" ++ name ++ "'"))
      | some f =>
        if !withEqual && f.kind == .truth then (none, args, value, none)
        else (some f, trimmed, value, none)

/-- The completions a flag offers for a word starting with a dash: its long
and short names that start with the word, with its usage. -/
def flagNameCompletions (f : Flag) (word : String) : List String :=
  let long := "--" ++ f.name
  (if long.startsWith word then [long ++ "\t" ++ f.usage] else []) ++
    match f.short with
    | some c =>
      let short := "-" ++ c.toString
      if short.startsWith word then [short ++ "\t" ++ f.usage] else []
    | none => []

/-- The subcommands offered for a word, the root's help command included, that
start with it, with their short descriptions; and whether there were any. -/
def subcommandCompletions (p : Place) (word : String) : List String × Bool :=
  let subs := (sortCommands p.command.subcommands).filter fun s =>
    s.available || (p.ancestors.isEmpty && s.spec.helpTopics)
  ((subs.filter (·.name.startsWith word)).map fun s => s.name ++ "\t" ++ s.spec.short, !subs.isEmpty)

/-- What the help command offers: the subcommands of the command its arguments
name. -/
def helpCompletions (root : Command) (args : List String) (word : String) : List String :=
  match find root args with
  | .ok (p, _) => (subcommandCompletions p word).1
  | .error _ => []

def completions (root : Command) (args : List String) : List String × Nat :=
  match args.getLast? with
  | none => ([], 0)
  | some last =>
    match find root args.dropLast with
    | .error _ => ([], 0)
    | .ok (p, rest) =>
      let (flag, rest, word, unknown) := valueOfFlag p rest last
      match Parsed.of p.allFlags rest with
      | .error _ => ([], 0)
      | .ok parsed =>
        let flagsOpen := match Parsed.of p.allFlags (rest ++ ["--"]) with
          | .ok ended => ended.args.length ≤ parsed.args.length
          | .error _ => true
        if unknown.isSome && flagsOpen then ([], 0)
        else if parsed.changed p.helpFlag then ([], 4)
        else if flag.isNone && word.startsWith "-" && !word.contains '=' && flagsOpen then
          let offered (f : Flag) : List String := if parsed.changed f then [] else flagNameCompletions f word
          let inherited := p.inherited
          let own := p.allFlags.filter fun f => !inherited.any (·.name == f.name)
          let comps := (sortFlags inherited).flatMap offered ++ (sortFlags own).flatMap offered
          (comps, if comps.length = 1 && comps.any (·.endsWith "=") then 2 else 4)
        else
          let (comps, directive) :=
            if flag.isNone then
              let ownSet := (p.command.spec.flags ++ [p.helpFlag]).any parsed.changed
              if parsed.args.isEmpty && !ownSet then
                let (subs, any) := subcommandCompletions p word
                (subs, if any then 4 else 0)
              else ([], 0)
            else ([], 0)
          if flag.isSome && flagsOpen then (comps, directive)
          else
            match p.command.spec.argCompletion with
            | .files => (comps, directive)
            | .nothing => (comps, 4)
            | .commands => (comps ++ helpCompletions root parsed.args word, 4)

/-- What the completion command prints: the completions, each on its own line,
with or without descriptions, and then the directive after a colon. -/
def completionText (root : Command) (args : List String) (descriptions : Bool) : String :=
  let (comps, directive) := completions root args
  String.join (comps.map fun c =>
    let c := if descriptions then c else (c.splitOn "\t").headD ""
    Blank.trim ((c.splitOn "\n").headD "") ++ "\n") ++ ":" ++ toString directive ++ "\n"

end CommandLine
end JuryCaptions
