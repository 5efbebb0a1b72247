import JuryCaptions.Shell.Utility
/-!
`comm` and `join` over two sorted files. `comm` writes lines only in the first,
only in the second, or in both in three columns; `-1`, `-2` and `-3` leave one
out with its separators.
-/

namespace JuryCaptions
namespace Shell

abbrev OrderCheck := Option Bool

/-! ## comm -/

structure CommStyle where
  shown : Nat → Bool := fun _ => true
  sep : String := "\t"
  check : OrderCheck := none
  total : Bool := false
  ending : Char := '\n'

structure CommState where
  rest1 : List String
  rest2 : List String
  /-- The last line passed in each file. -/
  last1 : Option String := none
  last2 : Option String := none
  unpaired : Bool := false
  warned1 : Bool := false
  warned2 : Bool := false
  counts : Nat × Nat × Nat := (0, 0, 0)
  /-- What is written so far, and the output not yet in it. -/
  report : Report := {}
  pending : String := ""
  halted : Bool := false

def CommState.emit (st : CommState) (text : String) : CommState := { st with pending := st.pending ++ text }

def CommState.flushed (st : CommState) : Report := st.report.say st.pending

def CommStyle.line (s : CommStyle) (column : Nat) (text : String) : String :=
  if !s.shown column then ""
  else
    let before := (List.range (column - 1)).filter fun c => s.shown (c + 1)
    String.join (before.map fun _ => s.sep) ++ text ++ String.singleton s.ending

def CommState.checkOrder (st : CommState) (s : CommStyle) (file : Nat) (prev cur : String) : CommState :=
  let warned := if file == 1 then st.warned1 else st.warned2
  let active := s.check == some true || (s.check == none && st.unpaired)
  if !active || warned || !(cur < prev) then st
  else
    let r := st.flushed.note ("comm: file " ++ toString file ++ " is not in sorted order\n")
    let st := { st with pending := "" }
    if s.check == some true then { st with report := { r with failed := true }, halted := true }
    else if file == 1 then { st with report := r, warned1 := true } else { st with report := r, warned2 := true }

def CommState.advance (st : CommState) (s : CommStyle) (file : Nat) : CommState :=
  let (rest, last) := if file == 1 then (st.rest1, st.last1) else (st.rest2, st.last2)
  match rest with
  | [] => st
  | cur :: more =>
    let st := if file == 1 then { st with rest1 := more, last1 := some cur } else { st with rest2 := more, last2 := some cur }
    match more, last with
    | next :: _, _ => st.checkOrder s file cur next
    | [], some before => st.checkOrder s file before cur
    | [], none => st

def commWalk (s : CommStyle) : Nat → CommState → CommState
  | 0, st => st
  | f + 1, st =>
    if st.halted then st
    else
      match st.rest1, st.rest2 with
      | [], [] => st
      | a, b =>
        let order : Ordering := match a, b with
          | [], _ => .gt
          | _, [] => .lt
          | x :: _, y :: _ => compare x y
        let (n1, n2, n3) := st.counts
        let st := match order, a, b with
          | .eq, _, y :: _ => { st.emit (s.line 3 y) with counts := (n1, n2, n3 + 1) }
          | .lt, x :: _, _ => { st.emit (s.line 1 x) with counts := (n1 + 1, n2, n3), unpaired := true }
          | _, _, y :: _ => { st.emit (s.line 2 y) with counts := (n1, n2 + 1, n3), unpaired := true }
          | _, _, _ => st
        let st := if order != .gt then st.advance s 1 else st
        let st := if order != .lt && !st.halted then st.advance s 2 else st
        commWalk s f st

def commSyntax : OptionSyntax :=
  { flags := ['1', '2', '3', 'z', longOnly 1, longOnly 2, longOnly 4], valued := [longOnly 3],
    long := [("check-order", longOnly 1), ("nocheck-order", longOnly 2), ("output-delimiter", longOnly 3),
             ("total", longOnly 4), ("zero-terminated", 'z')] }

def commTool (t : ToolInput) (args : List String) : ToolOutcome :=
  match commSyntax.read args with
  | .error e => t.fail (e.message "comm") 1
  | .ok o =>
    let seps := o.all (longOnly 3)
    if seps.any (· != seps.headD "") then t.fail "comm: multiple output delimiters specified\n" 1
    else match o.operands with
    | [] => t.fail ("comm: missing operand\n" ++ tryHelp "comm") 1
    | [a] => t.fail ("comm: missing operand after " ++ quoteText a ++ "\n" ++ tryHelp "comm") 1
    | _ :: _ :: extra :: _ => t.fail (extraOperand "comm" extra) 1
    | [a, b] =>
      let check : OrderCheck := o.given.foldl (fun c (x, _) =>
        if x == longOnly 1 then some true else if x == longOnly 2 then some false else c) none
      let sep := match seps.head? with
        | some "" => "\x00"
        | some v => v
        | none => "\t"
      let ending := if o.has 'z' then '\x00' else '\n'
      let style : CommStyle :=
        { shown := fun c => !o.has (Char.ofNat (48 + c)), sep, check, total := o.has (longOnly 4), ending }
      let read (n : String) (inputRead : Bool) : Except String String :=
        if n == "-" then .ok (if inputRead then "" else t.input) else t.read n
      match read a false with
      | .error why => t.fail ("comm: " ++ shownName a ++ ": " ++ why ++ "\n") 1
      | .ok text1 =>
        match read b (a == "-") with
        | .error why => t.fail ("comm: " ++ shownName b ++ ": " ++ why ++ "\n") 1
        | .ok text2 =>
          let lines1 := recordsOf ending text1
          let lines2 := recordsOf ending text2
          let st := commWalk style (lines1.length + lines2.length + 1) { rest1 := lines1, rest2 := lines2 }
          if st.halted then t.finish st.flushed
          else
            let (n1, n2, n3) := st.counts
            let r := if style.total then
                st.flushed.say (toString n1 ++ sep ++ toString n2 ++ sep ++ toString n3 ++ sep ++ "total" ++
                  String.singleton ending)
              else st.flushed
            let r := if st.warned1 || st.warned2 then r.warn "comm: input is not in sorted order\n" else r
            t.finish r

/-! ## join -/

structure JoinLine where
  text : String
  fields : Array String

/-- The fields of a line: parted by a character, or by runs of blanks with
leading blanks ignored and trailing ones leaving an empty last field. -/
def joinFields (tab : Option Char) (line : String) : Array String :=
  let cs := line.toList
  if cs.isEmpty then #[]
  else match tab with
    | some '\n' => #[line]
    | some c => (line.splitOn (String.singleton c)).toArray
    | none =>
      let isSep (c : Char) : Bool := c == ' ' || c == '\t' || c == '\n'
      let body := cs.dropWhile isSep
      if body.isEmpty then #[]
      else
        let words := (String.ofList body).split (fun c => isSep c) |>.toList.map (·.toString)
        let words := words.filter (!·.isEmpty)
        if isSep (cs.getLast?.getD 'x') then (words ++ [""]).toArray else words.toArray

/-- A field of the output: the key (`0`), or a field of the first or the
second file, counted from zero. -/
structure FieldSpec where
  file : Nat
  field : Nat

structure JoinSettings where
  field1 : Nat := 0
  field2 : Nat := 0
  tab : Option Char := none
  ignoreCase : Bool := false
  unpaired1 : Bool := false
  unpaired2 : Bool := false
  pairs : Bool := true
  empty : Option String := none
  format : List FieldSpec := []
  auto : Bool := false
  check : OrderCheck := none
  header : Bool := false
  ending : Char := '\n'
  names : String × String := ("", "")

namespace JoinSettings

def key (s : JoinSettings) (file : Nat) (l : JoinLine) : String :=
  l.fields.getD (if file == 1 then s.field1 else s.field2) ""

def compareKeys (s : JoinSettings) (a b : String) : Ordering :=
  if a.isEmpty then (if b.isEmpty then .eq else .lt)
  else if b.isEmpty then .gt
  else if s.ignoreCase then compare (String.map Char.toUpper a) (String.map Char.toUpper b)
  else compare a b

def keyOrder (s : JoinSettings) (a b : JoinLine) : Ordering := s.compareKeys (s.key 1 a) (s.key 2 b)

def sep (s : JoinSettings) : String := String.singleton (s.tab.getD ' ')

def fieldText (s : JoinSettings) (l : Option JoinLine) (n : Nat) : String :=
  match (l.bind fun l => l.fields[n]?) with
  | some v => if v.isEmpty then s.empty.getD "" else v
  | none => s.empty.getD ""

/-- The line written for a pair, either side missing for a line that pairs
with none; `counts` holds the fields of the first lines for `-o auto`. -/
def pairLine (s : JoinSettings) (counts : Nat × Nat) (a b : Option JoinLine) : String :=
  let keyOf : Option JoinLine × Nat := if a.isNone then (b, s.field2) else (a, s.field1)
  let body := match s.format with
    | [] =>
      let rest (l : Option JoinLine) (jf count : Nat) : String :=
        let n := if s.auto then count else (l.map (·.fields.size)).getD 0
        String.join (((List.range n).filter (· != jf)).map fun i => s.sep ++ s.fieldText l i)
      s.fieldText keyOf.1 keyOf.2 ++ rest a s.field1 counts.1 ++ rest b s.field2 counts.2
    | specs =>
      s.sep.intercalate (specs.map fun f =>
        if f.file == 0 then s.fieldText keyOf.1 keyOf.2
        else s.fieldText (if f.file == 1 then a else b) f.field)
  body ++ String.singleton s.ending

end JoinSettings

structure JoinFile where
  rest : List String
  lineNo : Nat := 0
  /-- The line read last, which the next one is checked against. -/
  prev : Option JoinLine := none
  warned : Bool := false

structure JoinState where
  file1 : JoinFile
  file2 : JoinFile
  unpaired : Bool := false
  /-- What is written so far, and the output not yet in it. -/
  report : Report := {}
  pending : String := ""
  halted : Bool := false

namespace JoinState

def flushed (st : JoinState) : Report := st.report.say st.pending

def get (st : JoinState) (file : Nat) : JoinFile := if file == 1 then st.file1 else st.file2

def put (st : JoinState) (file : Nat) (f : JoinFile) : JoinState :=
  if file == 1 then { st with file1 := f } else { st with file2 := f }

def readLine (s : JoinSettings) (st : JoinState) (file : Nat) : JoinState × Option JoinLine :=
  let f := st.get file
  match f.rest with
  | [] => (st, none)
  | text :: more =>
    let line : JoinLine := ⟨text, joinFields s.tab text⟩
    let f := { f with rest := more, lineNo := f.lineNo + 1 }
    let active := s.check == some true || (s.check == none && st.unpaired)
    let outOfOrder := match f.prev with
      | some p => active && !f.warned && s.compareKeys (s.key file p) (s.key file line) == .gt
      | none => false
    let f := { f with prev := some line }
    if !outOfOrder then (st.put file f, some line)
    else
      let name := if file == 1 then s.names.1 else s.names.2
      let st := { st with report := st.flushed, pending := "" }
      let r := st.report.note ("join: " ++ name ++ ":" ++ toString f.lineNo ++ ": is not sorted: " ++ text ++ "\n")
      if s.check == some true then ({ st with report := { r with failed := true }, halted := true }, none)
      else ({ (st.put file { f with warned := true }) with report := r }, some line)

def say (st : JoinState) (text : String) : JoinState := { st with pending := st.pending ++ text }

/-- Reads lines while their keys equal a key, after a first line with it: those
lines, the first line past them, and the state. -/
def readRun (s : JoinSettings) (file : Nat) (other : JoinLine) :
    Nat → JoinState → List JoinLine → JoinState × List JoinLine × Option JoinLine
  | 0, st, run => (st, run, none)
  | f + 1, st, run =>
    let (st, line) := st.readLine s file
    if st.halted then (st, run, none)
    else match line with
      | none => (st, run, none)
      | some l =>
        let same := if file == 1 then s.keyOrder l other == .eq else s.keyOrder other l == .eq
        if same then readRun s file other f st (run ++ [l]) else (st, run, some l)

def drain (s : JoinSettings) (counts : Nat × Nat) (file : Nat) (show0 : Bool) : Nat → JoinState → JoinState
  | 0, st => st
  | f + 1, st =>
    let (st, line) := st.readLine s file
    if st.halted then st
    else match line with
      | none => st
      | some l =>
        let st := if show0 then st.say (if file == 1 then s.pairLine counts (some l) none else s.pairLine counts none (some l))
          else st
        if (st.get file).warned && !show0 then st else drain s counts file show0 f st

end JoinState

def joinWalk (s : JoinSettings) (counts : Nat × Nat) :
    Nat → JoinState → Option JoinLine → Option JoinLine → JoinState × Option JoinLine × Option JoinLine
  | 0, st, a, b => (st, a, b)
  | f + 1, st, a, b =>
    if st.halted then (st, a, b)
    else match a, b with
      | some x, some y =>
        match s.keyOrder x y with
        | .lt =>
          let st := if s.unpaired1 then st.say (s.pairLine counts (some x) none) else st
          let (st, a) := st.readLine s 1
          joinWalk s counts f { st with unpaired := true } a b
        | .gt =>
          let st := if s.unpaired2 then st.say (s.pairLine counts none (some y)) else st
          let (st, b) := st.readLine s 2
          joinWalk s counts f { st with unpaired := true } a b
        | .eq =>
          let (st, run1, a) := st.readRun s 1 y f [x]
          if st.halted then (st, a, b)
          else
            let (st, run2, b) := st.readRun s 2 x f [y]
            if st.halted then (st, a, b)
            else
              let st := if s.pairs then
                  run1.foldl (fun st l1 => run2.foldl (fun st l2 => st.say (s.pairLine counts (some l1) (some l2))) st) st
                else st
              joinWalk s counts f st a b
      | _, _ => (st, a, b)

def joinRun (s : JoinSettings) (lines1 lines2 : List String) : Report :=
  let fuel := lines1.length + lines2.length + 2
  let st : JoinState := { file1 := { rest := lines1 }, file2 := { rest := lines2 } }
  let (st, a) := st.readLine s 1
  let (st, b) := st.readLine s 2
  let counts := ((a.map (·.fields.size)).getD 0, (b.map (·.fields.size)).getD 0)
  let (st, a, b) :=
    if s.header && (a.isSome || b.isSome) then
      let st := st.say (s.pairLine counts a b)
      let st := { st with file1 := { st.file1 with prev := none }, file2 := { st.file2 with prev := none } }
      let (st, a) := if a.isSome then st.readLine s 1 else (st, none)
      let (st, b) := if b.isSome then st.readLine s 2 else (st, none)
      (st, a, b)
    else (st, a, b)
  let (st, a, b) := joinWalk s counts fuel st a b
  if st.halted then st.flushed
  else
    let checkTail := s.check != some false && !(st.file1.warned && st.file2.warned)
    let st := match a with
      | some x =>
        if s.unpaired1 || checkTail then
          let st := if s.unpaired1 then st.say (s.pairLine counts (some x) none) else st
          let st := if b.isSome then { st with unpaired := true } else st
          st.drain s counts 1 s.unpaired1 fuel
        else st
      | none => st
    let st := match b with
      | some y =>
        if !st.halted && (s.unpaired2 || checkTail) then
          let st := if s.unpaired2 then st.say (s.pairLine counts none (some y)) else st
          let st := if a.isSome then { st with unpaired := true } else st
          st.drain s counts 2 s.unpaired2 fuel
        else st
      | none => st
    if st.halted then st.flushed
    else if st.file1.warned || st.file2.warned then st.flushed.warn "join: input is not in sorted order\n"
    else st.flushed

def joinFieldNumber (v : String) : Except String Nat :=
  match readAmount v true "" with
  | .ok n => if n ≤ 0 then .error ("join: invalid field number: " ++ quoteText v ++ "\n") else .ok (n.toNat - 1)
  | .error .tooLarge => .ok 9223372036854775806
  | .error _ => .error ("join: invalid field number: " ++ quoteText v ++ "\n")

def joinFormat (v : String) : Except String (List FieldSpec) :=
  let items := v.split (fun c => c == ',' || c == ' ' || c == '\t') |>.toList.map (·.toString)
  items.mapM fun item =>
    match item.toList with
    | ['0'] => .ok ⟨0, 0⟩
    | '0' :: _ => .error ("join: invalid field specifier: " ++ quoteText item ++ "\n")
    | d :: '.' :: rest =>
      if d == '1' || d == '2' then (joinFieldNumber (String.ofList rest)).map fun n => ⟨d.toNat - 48, n⟩
      else .error ("join: invalid file number in field spec: " ++ quoteText item ++ "\n")
    | d :: _ =>
      if d == '1' || d == '2' then .error ("join: invalid field specifier: " ++ quoteText item ++ "\n")
      else .error ("join: invalid file number in field spec: " ++ quoteText item ++ "\n")
    | [] => .error ("join: invalid file number in field spec: " ++ quoteText item ++ "\n")

def joinSyntax : OptionSyntax :=
  { flags := ['i', 'z', longOnly 1, longOnly 2, longOnly 3],
    valued := ['a', 'e', '1', '2', 'j', 'o', 't', 'v'],
    long := [("ignore-case", 'i'), ("zero-terminated", 'z'), ("check-order", longOnly 1),
             ("nocheck-order", longOnly 2), ("header", longOnly 3)] }

def setJoinField (current : Option Nat) (v : Nat) : Except String (Option Nat) :=
  match current with
  | some c => if c != v then .error ("join: incompatible join fields " ++ toString (c + 1) ++ ", " ++
      toString (v + 1) ++ "\n") else .ok (some c)
  | none => .ok (some v)

def joinSettingsOf (o : ReadOptions) : Except String JoinSettings := do
  let step := fun (acc : JoinSettings × Option Nat × Option Nat) ((c, v) : Char × String) =>
    let (s, f1, f2) := acc
    match c with
    | 'a' | 'v' =>
      let s := if c == 'v' then { s with pairs := false } else s
      match readAmount v true "" with
      | .ok 1 => Except.ok ({ s with unpaired1 := true }, f1, f2)
      | .ok 2 => .ok ({ s with unpaired2 := true }, f1, f2)
      | _ => .error ("join: invalid file number: " ++ quoteText v ++ "\n")
    | 'e' =>
      match s.empty with
      | some e => if e != v then .error "join: conflicting empty-field replacement strings\n" else .ok (s, f1, f2)
      | none => .ok ({ s with empty := some v }, f1, f2)
    | 'i' => .ok ({ s with ignoreCase := true }, f1, f2)
    | '1' => do
      let n ← joinFieldNumber v
      let f1 ← setJoinField f1 n
      .ok (s, f1, f2)
    | '2' => do
      let n ← joinFieldNumber v
      let f2 ← setJoinField f2 n
      .ok (s, f1, f2)
    | 'j' => do
      let n ← joinFieldNumber v
      let f1 ← setJoinField f1 n
      let f2 ← setJoinField f2 (f1.getD n)
      .ok (s, f1, f2)
    | 'o' =>
      if v == "auto" then .ok ({ s with auto := true }, f1, f2)
      else do
        let specs ← joinFormat v
        .ok ({ s with format := s.format ++ specs }, f1, f2)
    | 't' =>
      let cs := v.toList
      let newTab : Except String Char := match cs with
        | [] => .ok '\n'
        | [x] => .ok x
        | _ => if v == "\\0" then .ok '\x00' else .error ("join: multi-character tab " ++ quoteText v ++ "\n")
      match newTab with
      | .error e => .error e
      | .ok x =>
        match s.tab with
        | some old => if old != x then .error "join: incompatible tabs\n" else .ok (s, f1, f2)
        | none => .ok ({ s with tab := some x }, f1, f2)
    | 'z' => .ok ({ s with ending := '\x00' }, f1, f2)
    | _ =>
      if c == longOnly 1 then .ok ({ s with check := some true }, f1, f2)
      else if c == longOnly 2 then .ok ({ s with check := some false }, f1, f2)
      else if c == longOnly 3 then .ok ({ s with header := true }, f1, f2)
      else .ok (s, f1, f2)
  let (s, f1, f2) ← o.given.foldlM step (({} : JoinSettings), none, none)
  return { s with field1 := f1.getD 0, field2 := f2.getD 0 }

def joinTool (t : ToolInput) (args : List String) : ToolOutcome :=
  match joinSyntax.read args with
  | .error e => t.fail (e.message "join") 1
  | .ok o =>
    match joinSettingsOf o with
    | .error e => t.fail e 1
    | .ok s =>
      let extra := o.operands.length - 2
      let (lead, files) := (o.operands.take extra, o.operands.drop extra)
      let absorbed : Except String (List FieldSpec) :=
        if lead.isEmpty then .ok []
        else if o.has 'o' && !s.auto then lead.foldlM (fun acc v => (joinFormat v).map (acc ++ ·)) []
        else .error (extraOperand "join" (o.operands.getD 2 ""))
      match absorbed, files with
      | .error e, _ => t.fail e 1
      | _, [] => t.fail ("join: missing operand\n" ++ tryHelp "join") 1
      | _, [a] => t.fail ("join: missing operand after " ++ quoteText a ++ "\n" ++ tryHelp "join") 1
      | .ok more, a :: b :: _ =>
        let s := { s with format := s.format ++ more, names := (a, b) }
        if a == "-" && b == "-" then t.fail "join: both files cannot be standard input\n" 1
        else
          let read (n : String) : Except String String := if n == "-" then .ok t.input else t.read n
          match read a, read b with
          | .error why, _ => t.fail ("join: " ++ shownName a ++ ": " ++ why ++ "\n") 1
          | _, .error why => t.fail ("join: " ++ shownName b ++ ": " ++ why ++ "\n") 1
          | .ok text1, .ok text2 =>
            t.finish (joinRun s (recordsOf s.ending text1) (recordsOf s.ending text2))

end Shell
end JuryCaptions
