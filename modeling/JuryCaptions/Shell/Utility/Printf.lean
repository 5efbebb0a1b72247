import JuryCaptions.Shell.Utility
import JuryCaptions.Shell.Format
import JuryCaptions.Number.ExtendedRead
import JuryCaptions.Text.Wide
/-!
The system's `printf`: its format with each conversion replaced by the next
argument, again while arguments are left and it took any.
-/

namespace JuryCaptions
namespace Shell

/-- A run of `printf`: what it wrote, the arguments left, whether the format
took one this round, its status, and whether it ended. -/
structure PrintRun where
  /-- The name the program was started by. -/
  name : String := "printf"
  report : Report := {}
  args : List String
  took : Bool := false
  status : Nat := 0
  ended : Bool := false

namespace PrintRun

def put (r : PrintRun) (s : String) : PrintRun := { r with report := r.report.say s }

def complain (r : PrintRun) (msg : String) : PrintRun :=
  { r with report := r.report.note (r.name ++ ": " ++ msg ++ "\n"), status := 1 }

def die (r : PrintRun) (msg : String) : PrintRun :=
  { r.complain msg with ended := true }

def stop (r : PrintRun) : PrintRun := { r with status := 0, ended := true }

def next (r : PrintRun) : Option String × PrintRun :=
  match r.args with
  | a :: rest => (some a, { r with args := rest, took := true })
  | [] => (none, r)

end PrintRun

def utf8Bytes (n : Nat) : String :=
  let b (k : Nat) : Char := Char.ofNat (k % 256)
  String.ofList <|
    if n < 0x80 then [b n]
    else if n < 0x800 then [b (0xC0 + n / 64), b (0x80 + n % 64)]
    else if n < 0x10000 then [b (0xE0 + n / 4096), b (0x80 + n / 64 % 64), b (0x80 + n % 64)]
    else [b (0xF0 + n / 262144), b (0x80 + n / 4096 % 64), b (0x80 + n / 64 % 64), b (0x80 + n % 64)]

/-- Reads an escape after its backslash, `octalZero` telling whether `\0`
starts an octal one as in `%b`: the run after it and what follows. -/
def systemEscape (octalZero : Bool) (cs : List Char) (r : PrintRun) : PrintRun × List Char :=
  let hexValue (ds : List Char) : Nat := ds.foldl (fun n d => 16 * n + ((digitIn 16 d).getD 0)) 0
  match cs with
  | 'x' :: rest =>
    let ds := (rest.takeWhile fun c => (digitIn 16 c).isSome).take 2
    if ds.isEmpty then (r.die "missing hexadecimal number in escape", [])
    else (r.put (byteChar (hexValue ds)), rest.drop ds.length)
  | c :: rest =>
    if isOctal c then
      let body := if octalZero && c == '0' then rest else c :: rest
      let ds := (body.takeWhile isOctal).take 3
      (r.put (byteChar (octalValue ds)), body.drop ds.length)
    else if c == 'c' then (r.stop, [])
    else if c == 'u' || c == 'U' then
      let count := if c == 'u' then 4 else 8
      let ds := rest.take count
      if ds.length < count || !ds.all (fun d => (digitIn 16 d).isSome) then
        (r.die "missing hexadecimal number in escape", [])
      else
        let v := hexValue ds
        if (v ≤ 0x9f && v != 0x24 && v != 0x40 && v != 0x60) || (0xd800 ≤ v && v ≤ 0xdfff) then
          (r.die ("invalid universal character name \\" ++ String.singleton c ++ hexPadded count v), [])
        else (r.put (utf8Bytes v), rest.drop count)
    else
      match c with
      | '\\' => (r.put "\\", rest)
      | '"' => (r.put "\"", rest)
      | 'a' => (r.put "\x07", rest)
      | 'b' => (r.put "\x08", rest)
      | 'e' => (r.put "\x1b", rest)
      | 'f' => (r.put "\x0c", rest)
      | 'n' => (r.put "\n", rest)
      | 'r' => (r.put "\r", rest)
      | 't' => (r.put "\t", rest)
      | 'v' => (r.put "\x0b", rest)
      | _ => (r.put ("\\" ++ String.singleton c), rest)
  | [] => (r.put "\\", [])

def escapedArgument : Nat → List Char → PrintRun → PrintRun
  | 0, _, r => r
  | _ + 1, [], r => r
  | f + 1, '\\' :: rest, r =>
    let (r, more) := systemEscape true rest r
    if r.ended then r else escapedArgument f more r
  | f + 1, c :: rest, r => escapedArgument f rest (r.put (String.singleton c))

def constantCode (rest : List Char) : Nat × List Char :=
  match rest with
  | [] => (0, [])
  | c :: more =>
    let b := c.toNat
    let count := if b < 0xC0 then 1 else if b < 0xE0 then 2 else if b < 0xF0 then 3 else 4
    let bytes := (c :: more).take count
    if count > 1 && bytes.length == count && (bytes.drop 1).all (fun d => d.toNat / 64 == 2) then
      let lead := b % (if count == 2 then 32 else if count == 3 then 16 else 8)
      ((bytes.drop 1).foldl (fun n d => 64 * n + d.toNat % 64) lead, more.drop (count - 1))
    else (b, more)

def systemNumber (unsigned : Bool) (arg : String) (r : PrintRun) : Int × PrintRun :=
  match arg.toList with
  | q :: rest =>
    if (q = '\'' ∨ q = '"') ∧ !rest.isEmpty then
      let (v, after) := constantCode rest
      let r := if after.isEmpty then r
        else { r with report := r.report.note (r.name ++ ": warning: " ++ String.ofList after ++
          ": character(s) following character constant have been ignored\n") }
      (v, r)
    else
      let cs := (q :: rest).dropWhile isNumberBlank
      let (neg, body) := NumberText.takeSign cs
      match readDigits body with
      | none => (0, r.complain (quoteText arg ++ ": expected a numeric value"))
      | some (v, after) =>
        let (value, overflow) := clampNumber unsigned neg v
        if overflow then (value, r.complain (quoteText arg ++ ": Numerical result out of range"))
        else if !after.isEmpty then (value, r.complain (quoteText arg ++ ": value not completely converted"))
        else (value, r)
  | [] => (0, r)

def systemDouble (arg : String) (r : PrintRun) : ExtendedValue × PrintRun :=
  match arg.toList with
  | q :: rest =>
    if (q = '\'' ∨ q = '"') ∧ !rest.isEmpty then (.finite (Extended.ofInt (constantCode rest).1), r)
    else
      match ExtendedValue.read arg.toList with
      | none => (.finite {}, r.complain (quoteText arg ++ ": expected a numeric value"))
      | some v =>
        if v.outOfRange then (v.value, r.complain (quoteText arg ++ ": Numerical result out of range"))
        else if !v.rest.isEmpty then (v.value, r.complain (quoteText arg ++ ": value not completely converted"))
        else (v.value, r)
  | [] => (.finite {}, r)

def Spec.extended (sp : Spec) (conv : Char) (v : ExtendedValue) : String :=
  let word (neg : Bool) (w : String) : String := sp.pad (sp.signOf neg ++ (if conv.isUpper then w.toUpper else w))
  match v with
  | .infinite neg => word neg "inf"
  | .notANumber neg _ => word neg "nan"
  | .finite x => sp.finiteExtended conv x

/-- A character as `$'…'` writes it: its backslash escape, or each of its bytes in octal. -/
def escapeChar (c : Char) : String :=
  match controlLetter c with
  | some l => "\\" ++ String.singleton l
  | none => String.join ((Wide.encodeOne c).toList.map fun b => octalEscape b.toNat)

def needsQuotes (length pos : Nat) (c : Char) : Bool :=
  " !\"$&()*;<=>[^\x60|'\\?".toList.contains c || ((c == '#' || c == '~') && pos == 0) ||
    ((c == '\x7b' || c == '\x7d') && length == 1) || !Wide.isPrint c

/-- A text quoted as `printf %q` and `ls` in a shell quoting style write it. -/
def quoteForShell (always escapes : Bool) (cs : List Char) : String :=
  let flagged := cs.zipIdx.any fun (c, i) => needsQuotes cs.length i c
  if cs.isEmpty then "''"
  else if !flagged && !always then Wide.encode cs
  else if cs.contains '\'' && cs.all (fun c => Wide.isPrint c && !"\"$\x60\\!".toList.contains c) then
    "\"" ++ Wide.encode cs ++ "\""
  else
    let (out, _) := cs.foldl (fun (out, escaping) c =>
      if Wide.isPrint c || !escapes then
        let out := if escaping then out ++ "''" else out
        (out ++ (if c == '\'' then "'\\''" else Wide.encodeOne c), false)
      else ((if escaping then out else out ++ "'$'") ++ escapeChar c, true)) ("'", false)
    out ++ "'"

def systemConvert (whole : List Char) (r : PrintRun) : PrintRun × List Char :=
  match whole with
  | 'b' :: rest =>
    let (a, r) := r.next
    match a with
    | some a => (escapedArgument (a.length + 1) a.toList r, rest)
    | none => (r, rest)
  | 'q' :: rest =>
    let (a, r) := r.next
    match a with
    | some a => (r.put (quoteForShell false true (Wide.decode a)), rest)
    | none => (r, rest)
  | _ =>
    let flags := whole.takeWhile fun c => "'-+ #0I".toList.contains c
    let cs := whole.drop flags.length
    let (width, cs, r) : Option Int × List Char × PrintRun := match cs with
      | '*' :: rest =>
        let (a, r) := r.next
        match a with
        | some a => let (v, r) := systemNumber false a r; (some v, rest, r)
        | none => (some 0, rest, r)
      | _ =>
        let ds := cs.takeWhile Char.isDigit
        (if ds.isEmpty then none else some ((String.ofList ds).toNat! : Int), cs.drop ds.length, r)
    let (precision, point, cs, r) : Option Int × Bool × List Char × PrintRun := match cs with
      | '.' :: more =>
        match more with
        | '*' :: rest =>
          let (a, r) := r.next
          match a with
          | some a => let (v, r) := systemNumber false a r; (some v, true, rest, r)
          | none => (some 0, true, rest, r)
        | _ =>
          let ds := more.takeWhile Char.isDigit
          (some (String.ofList ds).toNat!, true, more.drop ds.length, r)
      | _ => (none, false, cs, r)
    let cs := cs.dropWhile fun c => "lLhjtz".toList.contains c
    let refused (c : Char) : Bool :=
      (flags.contains '\'' && "aAceEosxX".toList.contains c) ||
      (flags.contains '#' && "cdisu".toList.contains c) ||
      (flags.contains '0' && "cs".toList.contains c) ||
      (point && c == 'c')
    let bad (rest : List Char) : PrintRun × List Char :=
      (r.die ("%" ++ String.ofList (whole.take (whole.length - rest.length)) ++ ": invalid conversion specification"), [])
    match cs with
    | [] => bad []
    | c :: rest =>
      if !"aAcdeEfFgGiosuxX".toList.contains c || refused c then bad rest
      else
        let flags := if (width.getD 0) < 0 then flags ++ ['-'] else flags
        let sp : Spec := { flags := flags.filter (fun f => f != '\'' && f != 'I'), width := (width.getD 0).natAbs,
                           precision := precision.bind fun p => if p < 0 then none else some p.toNat }
        let (a, r) := r.next
        match c with
        | 's' => (r.put (sp.text (a.getD "")), rest)
        | 'c' => (r.put (sp.text (((a.getD "").toList.head?.map String.singleton).getD "\x00")), rest)
        | 'd' | 'i' =>
          let (v, r) := match a with
            | some a => systemNumber false a r
            | none => (0, r)
          (r.put (sp.signed v), rest)
        | 'u' | 'o' | 'x' | 'X' =>
          let (v, r) := match a with
            | some a => systemNumber true a r
            | none => (0, r)
          (r.put (sp.unsigned c v.toNat), rest)
        | _ =>
          let (v, r) := match a with
            | some a => systemDouble a r
            | none => (.finite {}, r)
          (r.put (sp.extended c v), rest)

def systemFormatOnce : Nat → List Char → PrintRun → PrintRun
  | 0, _, r => r
  | _ + 1, [], r => r
  | f + 1, '%' :: '%' :: rest, r => systemFormatOnce f rest (r.put "%")
  | f + 1, '%' :: rest, r =>
    let (r, rest) := systemConvert rest r
    if r.ended then r else systemFormatOnce f rest r
  | f + 1, '\\' :: rest, r =>
    let (r, more) := systemEscape false rest r
    if r.ended then r else systemFormatOnce f more r
  | f + 1, c :: rest, r => systemFormatOnce f rest (r.put (String.singleton c))

def systemFormatAll : Nat → List Char → PrintRun → PrintRun
  | 0, _, r => r
  | f + 1, format, r =>
    let r := systemFormatOnce (format.length + 1) format { r with took := false }
    if !r.ended && r.took && !r.args.isEmpty then systemFormatAll f format r else r

def printfTool (t : ToolInput) (args : List String) : ToolOutcome :=
  let args := match args with
    | "--" :: rest => rest
    | _ => args
  match args with
  | [] =>
    let name := if t.name.isEmpty then "printf" else t.name
    t.fail (name ++ ": missing operand\n" ++ tryHelp name) 1
  | format :: rest =>
    let name := if t.name.isEmpty then "printf" else t.name
    let r := systemFormatAll (rest.length + 1) format.toList { args := rest, name }
    let r := if !r.ended && !r.args.isEmpty then
        { r with report := r.report.note (name ++ ": warning: ignoring excess arguments, starting with " ++
          quoteText (r.args.headD "") ++ "\n") }
      else r
    { writes := r.report.writes, status := r.status, files := t.files }

end Shell
end JuryCaptions
