import JuryCaptions.CommandLine.Tree
/-!
The help of a command: the long description, or the short one, the usage, the
subcommands by name (padded to the longest, at least eleven), the own flags and
the inherited ones. A default is shown unless it is its kind's zero.
-/

namespace JuryCaptions
namespace CommandLine

def FlagKind.typeName : FlagKind → String
  | .text => "string"
  | .whole => "int"
  | .truth => "bool"

def FlagKind.zero : FlagKind → String
  | .text => ""
  | .whole => "0"
  | .truth => "false"

def byteLength (s : String) : Nat := (Utf8.encode s).length

def Flag.heading (f : Flag) : String :=
  (match f.short with
    | some c => "  -" ++ String.singleton c ++ ", --" ++ f.name
    | none => "      --" ++ f.name) ++
  (if f.kind == .truth then "" else " " ++ f.kind.typeName)

def Flag.describe (f : Flag) : String :=
  f.usage ++
    (if f.default == f.kind.zero then ""
     else if f.kind == .text then " (default " ++ Quote.quoted f.default ++ ")"
     else " (default " ++ f.default ++ ")")

def flagUsages (flags : List Flag) : String :=
  let sorted := flags.mergeSort fun a b => decide (a.name ≤ b.name)
  let width := sorted.foldl (fun m f => max m (byteLength f.heading + 1)) 0
  let indent := String.ofList (List.replicate (width + 2) ' ')
  String.join (sorted.map fun f =>
    f.heading ++ " " ++ String.ofList (List.replicate (width - byteLength f.heading) ' ') ++ " " ++
      f.describe.replace "\n" ("\n" ++ indent) ++ "\n")

def trimEnd (s : String) : String := String.ofList (s.toList.reverse.dropWhile Char.isWhitespace).reverse

def padRight (s : String) (width : Nat) : String :=
  s ++ String.ofList (List.replicate (width - byteLength s) ' ')

namespace Place

def hasAvailableSubcommands (p : Place) : Bool := p.command.subcommands.any (·.available)

def useLine (p : Place) : String :=
  let line := match p.ancestors with
    | [] => p.command.spec.use
    | _ => " ".intercalate (p.ancestors.map (·.name)) ++ " " ++ p.command.spec.use
  if (line.splitOn "[flags]").length > 1 then line else line ++ " [flags]"

def localFlags (p : Place) : List Flag :=
  if p.own.any (·.name == "help") then p.own else p.own ++ [p.helpFlag]

def inheritedFlags (p : Place) : List Flag :=
  let mine := p.localFlags.map (·.name)
  (p.inherited.foldl (fun acc f => if acc.any (·.name == f.name) then acc else acc ++ [f]) []).filter
    fun f => !mine.contains f.name

def usage (p : Place) : String :=
  let c := p.command
  let subs := c.subcommands.mergeSort fun a b => decide (a.name ≤ b.name)
  let pad := max 11 (c.subcommands.foldl (fun m s => max m (byteLength s.name)) 0)
  let offered := p.hasAvailableSubcommands
  "Usage:" ++
    (if c.spec.runnable then "\n  " ++ p.useLine else "") ++
    (if offered then "\n  " ++ p.path ++ " [command]" else "") ++
    (if offered then
      "\n\nAvailable Commands:" ++ String.join (subs.filterMap fun s =>
        if s.available || s.name == "help" then some ("\n  " ++ padRight s.name pad ++ " " ++ s.spec.short)
        else none)
     else "") ++
    (if p.localFlags.isEmpty then "" else "\n\nFlags:\n" ++ trimEnd (flagUsages p.localFlags)) ++
    (if p.inheritedFlags.isEmpty then "" else "\n\nGlobal Flags:\n" ++ trimEnd (flagUsages p.inheritedFlags)) ++
    (if offered then "\n\nUse \"" ++ p.path ++ " [command] --help\" for more information about a command."
     else "") ++ "\n"

def help (p : Place) : String :=
  let s := p.command.spec
  let about := if s.long.isEmpty then s.short else s.long
  (if about.isEmpty then "" else trimEnd about ++ "\n\n") ++
    (if s.runnable || !p.command.subcommands.isEmpty then p.usage else "")

end Place

end CommandLine
end JuryCaptions
