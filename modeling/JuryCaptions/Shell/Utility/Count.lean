import JuryCaptions.Shell.Utility
import JuryCaptions.Text.Wide
/-!
`wc`, `head` and `tail`. `wc` counts lines, words, characters, bytes and the
widest line; without an option lines, words and bytes.
-/

namespace JuryCaptions
namespace Shell

/-- What `wc` has counted: lines, finished words, whether a word is open,
characters, the column and the widest line. -/
structure WcState where
  lines : Nat := 0
  words : Nat := 0
  inWord : Bool := false
  chars : Nat := 0
  column : Nat := 0
  widest : Nat := 0

namespace WcState

def endWord (st : WcState) : WcState := { st with words := st.words + (if st.inWord then 1 else 0), inWord := false }

def endColumn (st : WcState) : WcState := { st with widest := max st.widest st.column, column := 0 }

def step (st : WcState) (c : Char) : WcState :=
  if Wide.isStray c then st
  else
    let st := { st with chars := st.chars + 1 }
    if c == '\n' then ({ st with lines := st.lines + 1 }.endColumn).endWord
    else if c == '\r' || c.toNat == 12 then st.endColumn.endWord
    else if c == '\t' then { st with column := st.column + 8 - st.column % 8 }.endWord
    else if c.toNat == 11 then st.endWord
    else if c == ' ' then { st with column := st.column + 1 }.endWord
    else match Wide.width c with
      | some w =>
        let st := { st with column := st.column + w }
        if Wide.isSpace c || [0xA0, 0x2007, 0x202F, 0x2060].contains c.toNat then st.endWord
        else { st with inWord := true }
      | none => st

end WcState

def wcCounts (s : String) : List Nat :=
  let st := ((Wide.decode s).foldl WcState.step {}).endColumn.endWord
  [st.lines, st.words, st.chars, s.length, st.widest]

def wcSyntax : OptionSyntax :=
  { flags := "lwcmL".toList, valued := [longOnly 1, longOnly 2],
    long := [("lines", 'l'), ("words", 'w'), ("bytes", 'c'), ("chars", 'm'), ("max-line-length", 'L'),
             ("total", longOnly 1), ("files0-from", longOnly 2)] }

def wcAdd (a b : List Nat) : List Nat :=
  (a.zip b).zipIdx.map fun ((x, y), k) => if k == 4 then max x y else x + y

/-- One input of `wc`: the name it is written with, none for the standard input read
without one. -/
structure WcInput where
  name : Option String
  text : Except String String
  size : Option Nat
  fault : Option String := none

def wcRun (t : ToolInput) (o : ReadOptions) (inputs : List WcInput) (sized : Bool) (total : String) : ToolOutcome :=
  let picked := ['l', 'w', 'm', 'c', 'L'].map o.has
  let picked := if picked.any id then picked else [true, true, false, true, false]
  let shown (counts : List Nat) : List Nat :=
    (counts.zip picked).filterMap fun (n, keep) => if keep then some n else none
  let single := inputs.length == 1 && (picked.filter id).length == 1
  let found (i : WcInput) : Bool := match i.text with
    | .ok _ => i.fault.isNone
    | .error why => why == "Is a directory"
  let width :=
    if total == "only" || !sized || single then 1
    else match inputs.head? with
      | some first =>
        if !found first then 1
        else
          let all := (inputs.filterMap fun i => match i.text with
            | .ok _ => i.size
            | .error _ => none).foldl (· + ·) 0
          let minimum := if inputs.any (fun i => found i && (i.text.toOption.isNone || i.size.isNone)) then 7
            else 1
          max (toString all).length minimum
      | none => 1
  let lineOf (counts : List Nat) (name : Option String) : String :=
    " ".intercalate ((shown counts).map fun n =>
      let s := toString n
      String.ofList (List.replicate (width - s.length) ' ') ++ s) ++
      (match name with
        | some n => " " ++ n
        | none => "") ++ "\n"
  let write (r : Report) (counts : List Nat) (name : Option String) : Report :=
    if total == "only" then r else r.say (lineOf counts name)
  let (r, totals) := inputs.foldl (fun (r, totals) i =>
    match i.fault, i.text with
    | some why, _ => (r.warn why, totals)
    | none, .ok text =>
      let counts := wcCounts text
      (write r counts i.name, wcAdd totals counts)
    | none, .error why =>
      let r := r.warn ("wc: " ++ shownName (i.name.getD "-") ++ ": " ++ why ++ "\n")
      (if why == "Is a directory" then write r (wcCounts "") i.name else r, totals))
    (({} : Report), [0, 0, 0, 0, 0])
  let r := if total == "only" then r.say (lineOf totals none)
    else if total == "always" || (total == "auto" && inputs.length > 1) then r.say (lineOf totals (some "total"))
    else r
  t.finish r

def wcTool (t : ToolInput) (args : List String) : ToolOutcome :=
  match wcSyntax.read args with
  | .error e => t.fail (e.message "wc") 1
  | .ok o =>
    let total := match o.last? (longOnly 1) with
      | some v => readChoice "wc" "total" [["auto"], ["always"], ["only"], ["never"]] v
      | none => .ok "auto"
    let onFile (n : String) : WcInput :=
      let r := t.source n
      { name := some n, text := r, size := if n == "-" then t.inputSize else r.toOption.map String.length }
    match total, o.last? (longOnly 2) with
    | .error e, _ => t.fail e 1
    | .ok total, none =>
      let inputs := if o.operands.isEmpty then [{ name := none, text := .ok t.input, size := t.inputSize }]
        else o.operands.map fun n =>
          if n.isEmpty then { onFile n with fault := some "wc: invalid zero-length file name\n" } else onFile n
      wcRun t o inputs true total
    | .ok total, some list =>
      match o.operands, t.source list with
      | n :: _, _ =>
        t.fail ("wc: extra operand " ++ quoteName n ++ "\nfile operands cannot be combined with --files0-from\n" ++
          tryHelp "wc") 1
      | [], .error why =>
        if why == "Is a directory" then
          t.finish (({} : Report).warn ("wc: " ++ shownName list ++ ": read error: Is a directory\n"))
        else t.fail ("wc: cannot open " ++ quoteName list ++ " for reading: " ++ why ++ "\n") 1
      | [], .ok text =>
        let names := text.splitOn (String.singleton (Char.ofNat 0))
        let names := if names.getLast? == some "" then names.dropLast else names
        let inputs := names.zipIdx.map fun (n, k) =>
          if list == "-" && n == "-" then
            { name := some n, text := .ok "", size := none,
              fault := some "wc: when reading file names from stdin, no file name of '-' allowed\n" }
          else if n.isEmpty then
            { name := some n, text := .ok "", size := none,
              fault := some ("wc: " ++ shownName list ++ ":" ++ toString (k + 1) ++ ": invalid zero-length file name\n") }
          else onFile n
        wcRun t o inputs (list != "-" || t.inputSize.isSome) total

def readPartCount (isHead : Bool) (s : String) : Except (String × AmountFault) (Nat × Option Char) :=
  let (sign, body) := match s.toList with
    | '+' :: _ => (if isHead then none else some '+', s)
    | '-' :: ds => (some '-', String.ofList ds)
    | _ => (none, s)
  match readAmount body false "bkKmMGTPEZYRQ0" with
  | .ok n => .ok (n.toNat, sign)
  | .error .tooLarge => if isHead then .error (body, .tooLarge) else .ok (18446744073709551615, sign)
  | .error e => .error (body, e)

def partSyntax (isHead : Bool) : OptionSyntax :=
  if isHead then
    { flags := ['q', 'v', 'z'], valued := ['n', 'c'],
      long := [("bytes", 'c'), ("lines", 'n'), ("quiet", 'q'), ("silent", 'q'), ("verbose", 'v'),
               ("zero-terminated", 'z')] }
  else
    { flags := ['q', 'v', 'z', 'f', 'F'], valued := ['n', 'c'],
      long := [("bytes", 'c'), ("follow", 'f'), ("lines", 'n'), ("quiet", 'q'), ("silent", 'q'),
               ("verbose", 'v'), ("zero-terminated", 'z')] }

def keepPart (isHead bytes : Bool) (eol : Char) (count : Nat × Option Char) (text : String) : String :=
  let (n, sign) := count
  let units : List String := if bytes then text.toList.map String.singleton else recordsWithEnd eol text
  let kept :=
    if isHead then
      if sign == some '-' then units.take (units.length - n) else units.take n
    else if sign == some '+' then units.drop (n - 1)
    else units.drop (units.length - n)
  String.join kept

def headTail (isHead : Bool) (t : ToolInput) (args : List String) : ToolOutcome :=
  let tool := if isHead then "head" else "tail"
  let args := match args with
    | a :: rest =>
      let body := a.toList.drop 1
      if a.startsWith "-" && body.head?.any Char.isDigit then "-n" :: String.ofList body :: rest
      else if !isHead && a.startsWith "+" && body.head?.any Char.isDigit then "-n" :: a :: rest
      else args
    | [] => []
  match (partSyntax isHead).read args with
  | .error e => t.fail (e.message tool) 1
  | .ok o =>
    let bytes := (o.given.filter fun (c, _) => c == 'n' || c == 'c').getLast?.any (·.1 == 'c')
    let countText := (o.given.filter fun (c, _) => c == 'n' || c == 'c').getLast?.map (·.2)
    let count : Except String (Nat × Option Char) := match countText with
      | none => .ok (10, none)
      | some s =>
        match readPartCount isHead s with
        | .ok c => .ok c
        | .error (shown, why) => .error (tool ++ ": invalid number of " ++ (if bytes then "bytes" else "lines") ++
            ": " ++ quoteText shown ++ why.suffix ++ "\n")
    match count with
    | .error e => t.fail e 1
    | .ok count =>
      let names := o.operandsOr "-"
      let headers := match (o.given.filter fun (c, _) => c == 'q' || c == 'v').getLast? with
        | some ('v', _) => true
        | some _ => false
        | none => names.length > 1
      let (r, _) := names.foldl (fun (r, first) n =>
        match t.source n with
        | .ok text =>
          let header := if headers then (if first then "" else "\n") ++ "==> " ++
            (if n == "-" then "standard input" else shownName n) ++ " <==\n" else ""
          (r.say (header ++ keepPart isHead bytes (if o.has 'z' then Char.ofNat 0 else '\n') count text), false)
        | .error why =>
          let msg := if why == "Is a directory" then tool ++ ": error reading " ++ quoteName n ++ ": " ++ why
            else tool ++ ": cannot open " ++ quoteName n ++ " for reading: " ++ why
          (r.warn (msg ++ "\n"), first)) (({} : Report), true)
      t.finish r

end Shell
end JuryCaptions
