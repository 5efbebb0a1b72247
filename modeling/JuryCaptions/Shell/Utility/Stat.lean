import JuryCaptions.Shell.Utility
import JuryCaptions.System.Mode
import JuryCaptions.Shell.Utility.Listing
/-!
`stat`: facts about files, written through a format.

A format of `-c` is written once for each file with a newline after it; one
of `--printf` has its backslash escapes read and no newline added.
-/

namespace JuryCaptions
namespace Shell

/-- The flags, width and precision of a directive of `stat`. -/
structure StatSpec where
  flags : List Char := []
  width : Nat := 0
  precision : Option Nat := none

namespace StatSpec

def text (sp : StatSpec) (s : String) : String :=
  let s := match sp.precision with
    | some p => String.ofList (s.toList.take p)
    | none => s
  let pad := String.ofList (List.replicate (sp.width - s.length) ' ')
  if sp.flags.contains '-' then s ++ pad else pad ++ s

def number (sp : StatSpec) (base : Nat) (n : Int) : String :=
  let digits := Nat.toDigits base n.natAbs
  let digits := List.replicate (sp.precision.getD 1 - digits.length) '0' ++ digits
  let sign := if n < 0 then "-" else if sp.flags.contains '+' then "+" else if sp.flags.contains ' ' then " " else ""
  let lead := if sp.flags.contains '#' && n != 0 then (if base == 8 then "0" else if base == 16 then "0x" else "") else ""
  let lead := if base == 8 && digits.head? == some '0' then "" else lead
  let body := String.ofList digits
  let used := sign.length + lead.length + body.length
  if sp.flags.contains '0' && !sp.flags.contains '-' && sp.precision.isNone then
    sign ++ lead ++ String.ofList (List.replicate (sp.width - used) '0') ++ body
  else { sp with precision := none }.text (sign ++ lead ++ body)

end StatSpec

def readStatSpec (cs : List Char) : StatSpec × List Char :=
  let flags := cs.takeWhile ("-+ #0'".toList.contains ·)
  let cs := cs.drop flags.length
  let ws := cs.takeWhile Char.isDigit
  let cs := cs.drop ws.length
  let width := ws.foldl (fun n c => 10 * n + (c.toNat - 48)) 0
  match cs with
  | '.' :: more =>
    let ps := more.takeWhile Char.isDigit
    ({ flags, width, precision := some (ps.foldl (fun n c => 10 * n + (c.toNat - 48)) 0) }, more.drop ps.length)
  | _ => ({ flags, width }, cs)

def fileKindName : Entry → String
  | .dir => "directory"
  | .file t _ => if t.isEmpty then "regular empty file" else "regular file"
  | .tool _ => "regular file"

def statDirective (files : Files) (name : String) (item : ListItem) (sp : StatSpec) (c : Char) : String :=
  let mode := files.mode item.path
  let size := entrySize item.entry
  match c with
  | 'n' => sp.text name
  | 'N' => sp.text (quoteName name)
  | 's' => sp.number 10 size
  | 'b' => sp.number 10 (2 * ListStyle.blocksOfEntry item.entry)
  | 'B' => sp.number 10 512
  | 'a' => sp.number 8 mode
  | 'A' => sp.text (ListStyle.modeText files item)
  | 'f' => sp.number 16 ((if item.entry == .dir then 0o40000 else 0o100000) + mode)
  | 'F' => sp.text (fileKindName item.entry)
  | 'h' => sp.number 10 (ListStyle.linksOf files item)
  | 'u' | 'g' => sp.number 10 0
  | 'U' | 'G' => sp.text "root"
  | 'o' => sp.number 10 4096
  | 'd' => sp.number 10 2049
  | 'D' => sp.number 16 2049
  | 'i' => sp.number 10 (1000 + ((files.entries.findIdx? (·.1 == item.path)).getD 0))
  | 'm' => sp.text "/"
  | 't' | 'T' => sp.number 16 0
  | 'w' => sp.text "-"
  | 'W' => sp.number 10 0
  | 'x' | 'y' | 'z' => sp.text "1970-01-01 00:00:00.000000000 +0000"
  | 'X' | 'Y' | 'Z' => sp.number 10 0
  | 'C' => sp.text "?"
  | _ => "?"

def statEscape (c : Char) : Option Char :=
  match c with
  | 'a' => some '\x07'
  | 'b' => some '\x08'
  | 'e' => some '\x1b'
  | 'f' => some '\x0c'
  | 'n' => some '\n'
  | 'r' => some '\r'
  | 't' => some '\t'
  | 'v' => some '\x0b'
  | '"' | '\\' => some c
  | _ => none

def statFormat (files : Files) (name : String) (item : ListItem) (escapes : Bool) :
    Nat → List Char → String × List String → Except String (String × List String)
  | 0, _, acc => .ok acc
  | _ + 1, [], acc => .ok acc
  | f + 1, '%' :: rest, (out, warns) =>
    let (sp, after) := readStatSpec rest
    let spent := rest.take (rest.length - after.length)
    match after with
    | [] => if spent.isEmpty then .ok (out.push '%', warns) else .error ("%" ++ String.ofList spent)
    | '%' :: more =>
      if spent.isEmpty then statFormat files name item escapes f more (out.push '%', warns)
      else .error ("%" ++ String.ofList spent ++ "%")
    | c :: more => statFormat files name item escapes f more (out ++ statDirective files name item sp c, warns)
  | f + 1, '\\' :: rest, (out, warns) =>
    if !escapes then statFormat files name item escapes f rest (out.push '\\', warns)
    else match rest with
      | [] => .ok (out.push '\\', warns ++ ["stat: warning: backslash at end of format\n"])
      | c :: more =>
        if '0' ≤ c && c ≤ '7' then
          let ds := (c :: more).takeWhile (fun d => '0' ≤ d && d ≤ '7') |>.take 3
          let v := ds.foldl (fun n d => 8 * n + (d.toNat - 48)) 0
          statFormat files name item escapes f ((c :: more).drop ds.length) (out.push (Char.ofNat (v % 256)), warns)
        else if c == 'x' && more.head?.any Char.isHexDigit then
          let ds := more.takeWhile Char.isHexDigit |>.take 2
          let v := ds.foldl (fun n d => 16 * n + (Nat.ofDigitChars 16 [d] 0)) 0
          statFormat files name item escapes f (more.drop ds.length) (out.push (Char.ofNat v), warns)
        else match statEscape c with
          | some e => statFormat files name item escapes f more (out.push e, warns)
          | none => statFormat files name item escapes f more
              (out.push c, warns ++ ["stat: warning: unrecognized escape '\\" ++ String.singleton c ++ "'\n"])
  | f + 1, c :: rest, (out, warns) => statFormat files name item escapes f rest (out.push c, warns)

def statSyntax : OptionSyntax :=
  { flags := ['L', 'f', 't'], valued := ['c', longOnly 1],
    long := [("format", 'c'), ("printf", longOnly 1), ("dereference", 'L'), ("file-system", 'f'),
             ("terse", 't')] }

def statTool (t : ToolInput) (args : List String) : ToolOutcome :=
  match statSyntax.read args with
  | .error e => t.fail (e.message "stat") 1
  | .ok o =>
    if o.operands.isEmpty then t.fail (missingOperand "stat") 1
    else
      let chosen := (o.given.filter fun (c, _) => c == 'c' || c == longOnly 1).getLast?
      let (format, escapes, ending) : String × Bool × String := match chosen with
        | some ('c', v) => (v, false, "\n")
        | some (_, v) => (v, true, "")
        | none =>
          if o.has 't' then ("%n %s %b %f %u %g %D %i %h %t %T %X %Y %Z %W %o", false, "\n")
          else ("  File: %N\n  Size: %-10s\tBlocks: %-10b IO Block: %-6o %F\nDevice: %Dh/%dd\tInode: %-10i  " ++
            "Links: %h\nAccess: (%04a/%10.10A)  Uid: (%5u/%8U)   Gid: (%5g/%8G)\nAccess: %x\nModify: %y\n" ++
            "Change: %z\n Birth: %w", false, "\n")
      let step (acc : Except Report Report) (n : String) : Except Report Report :=
        match acc with
        | .error r => .error r
        | .ok r =>
          let path := t.resolve n
          match t.files.lookup path with
          | .ok e =>
            match statFormat t.files n ⟨n, path, e⟩ escapes (format.length + 1) format.toList ("", []) with
            | .ok (out, warns) => .ok ((warns.foldl Report.note r).say (out ++ ending))
            | .error d => .error (r.warn ("stat: " ++ quoteText d ++ ": invalid directive\n"))
          | e => .ok (r.warn ("stat: cannot statx " ++ quoteName n ++ ": " ++ reachProblem e ++ "\n"))
      match o.operands.foldl step (.ok {}) with
      | .ok r | .error r => t.finish r

end Shell
end JuryCaptions
