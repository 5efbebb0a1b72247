import JuryCaptions.Shell.Utility
/-!
Tabs and spaces: `expand` writes each tab as the spaces up to the next tab
stop, and `unexpand` writes runs of blanks that reach a tab stop as tabs.
-/

namespace JuryCaptions
namespace Shell

/-- The tab stops: explicit columns, then a repeat or an increment after the
last. A single size repeats from column 0. -/
structure TabStops where
  stops : List Nat := []
  extend : Nat := 0
  increment : Nat := 0

namespace TabStops

def single (t : TabStops) : Option Nat :=
  match t.stops with
  | [] => some (if t.extend != 0 then t.extend else if t.increment != 0 then t.increment else 8)
  | [n] => if t.extend == 0 && t.increment == 0 then some n else none
  | _ => none

def next (t : TabStops) (column index : Nat) : Option Nat × Nat :=
  match t.single with
  | some size => (some (column + (size - column % size)), index)
  | none =>
    let rest := t.stops.drop index
    match rest.findIdx? (column < ·) with
    | some k => (rest[k]?, index + k)
    | none =>
      let index := t.stops.length
      if t.extend != 0 then (some (column + (t.extend - column % t.extend)), index)
      else if t.increment != 0 then
        let last := t.stops.getLastD 0
        (some (column + (t.increment - (column - last) % t.increment)), index)
      else (none, index)

end TabStops

/-- The reader of a tab list: the stops so far, the number being read with its
digits, a `/` or `+` mark, and the faults found. -/
structure TabScan where
  stops : TabStops := {}
  value : Option Nat := none
  digits : String := ""
  extend : Bool := false
  increment : Bool := false
  faults : List String := []

namespace TabScan

def fault (s : TabScan) (text : String) : TabScan := { s with faults := s.faults ++ [text] }

/-- Ends the number being read, as a stop, the repeat or the increment; a
second repeat or increment is a fault that ends the list, with false. -/
def close (s : TabScan) : TabScan × Bool :=
  match s.value with
  | none => (s, true)
  | some v =>
    let s := { s with value := none, digits := "" }
    if s.extend then
      if s.stops.extend != 0 then (s.fault "'/' specifier only allowed with the last value", false)
      else ({ s with stops := { s.stops with extend := v } }, true)
    else if s.increment then
      if s.stops.increment != 0 then (s.fault "'+' specifier only allowed with the last value", false)
      else ({ s with stops := { s.stops with increment := v } }, true)
    else ({ s with stops := { s.stops with stops := s.stops.stops ++ [v] } }, true)

def largest : Nat := Nat.pow 2 64 - 1

def readList (cs : List Char) (s : TabScan) (skip : Bool := false) : TabScan :=
  match cs with
  | [] => if s.faults.isEmpty then s.close.1 else s
  | c :: rest =>
    if c == ',' || isBlankChar c then
      let (s, ok) := s.close
      if ok then readList rest s else s
    else if c == '/' || c == '+' then
      let s := if s.value.isSome then
          s.fault ("'" ++ String.singleton c ++ "' specifier not at start of number: " ++ quoteText (String.ofList cs))
        else s
      readList rest { s with extend := c == '/', increment := c == '+' }
    else if c.isDigit then
      if skip then readList rest s true
      else
        let v := 10 * s.value.getD 0 + (c.toNat - 48)
        if v ≤ largest then readList rest { s with value := some v, digits := s.digits.push c }
        else
          let s := s.fault ("tab stop is too large " ++ quoteText (s.digits ++ String.ofList (cs.takeWhile Char.isDigit)))
          readList rest { s with value := some (s.value.getD 0) } true
    else s.fault ("tab size contains invalid character(s): " ++ quoteText (String.ofList cs))

def readOne (s : TabScan) (list : String) : Except (List String) TabScan :=
  let s := readList list.toList { s with value := none, digits := "", extend := false, increment := false }
  if s.faults.isEmpty then .ok s else .error s.faults

end TabScan

def TabStops.check (t : TabStops) : Except String TabStops :=
  let rec ascending : Nat → List Nat → Except String Unit
    | _, [] => .ok ()
    | prev, v :: rest =>
      if v == 0 then .error "tab size cannot be 0"
      else if v ≤ prev then .error "tab sizes must be ascending"
      else ascending v rest
  match ascending 0 t.stops with
  | .error e => .error e
  | .ok () =>
    if t.extend != 0 && t.increment != 0 then .error "'/' specifier is mutually exclusive with '+'" else .ok t

def expandTabs (t : TabStops) (initial : Bool) (text : String) : String :=
  let step := fun ((out : String), (column : Nat), (index : Nat), (convert : Bool)) (c : Char) =>
    if c == '\n' then (out.push c, 0, 0, true)
    else if !convert then (out.push c, column, index, convert)
    else if c == '\t' then
      let (stop, index) := t.next column index
      let target := stop.getD (column + 1)
      (out ++ String.ofList (List.replicate (target - column) ' '), target, index, true)
    else if c == '\x08' then (out.push c, column - 1, index - 1, !initial)
    else (out.push c, column + 1, index, !initial || isBlankChar c)
  let (out, _, _, _) := text.toList.foldl step ("", 0, 0, true)
  out

/-- Where `unexpand` stands in a line: the column, the index in the list of stops. -/
structure UnexpandState where
  column : Nat := 0
  index : Nat := 0
  pending : List Char := []
  oneBefore : Bool := false
  prevBlank : Bool := true
  convert : Bool := true

def UnexpandState.flush (st : UnexpandState) (out : String) : String × UnexpandState :=
  if st.pending.isEmpty then (out, st)
  else
    let pending := if st.pending.length > 1 && st.oneBefore then '\t' :: st.pending.drop 1 else st.pending
    (out ++ String.ofList pending, { st with pending := [], oneBefore := false })

def unexpandChar (t : TabStops) (all : Bool) (acc : String × UnexpandState) (c : Char) : String × UnexpandState :=
  let (out, st) := acc
  if !st.convert then
    (out.push c, if c == '\n' then {} else st)
  else
    let blank := isBlankChar c
    let (st, written?) : UnexpandState × Option Char :=
      if blank then
        let (stop, index) := t.next st.column st.index
        let st := { st with index }
        match stop with
        | none => ({ st with convert := false }, some c)
        | some stop =>
          let held := if st.oneBefore then ['\t'] else []
          if c == '\t' then ({ st with column := stop, pending := held }, some '\t')
          else
            let column := st.column + 1
            if st.prevBlank && column == stop then ({ st with column, pending := held }, some '\t')
            else ({ st with column, oneBefore := st.oneBefore || column == stop, pending := st.pending ++ [c],
                            prevBlank := true }, none)
      else if c == '\x08' then
        ({ st with column := st.column - 1, index := st.index - 1 }, some c)
      else ({ st with column := st.column + 1 }, some c)
    match written? with
    | none => (out, st)
    | some w =>
      let (out, st) := st.flush out
      let st := { st with prevBlank := blank, convert := st.convert && (all || blank) }
      let out := out.push w
      (out, if w == '\n' then {} else st)

def unexpandTabs (t : TabStops) (all : Bool) (text : String) : String :=
  let (out, st) := text.toList.foldl (unexpandChar t all) ("", {})
  (st.flush out).1

def tabFaults (tool : String) (faults : List String) : String :=
  String.join (faults.map fun f => tool ++ ": " ++ f ++ "\n")

/-- The tab stops that the options of `expand` ask for, in order: the lists of
`-t` and those of the old form, a digit and what follows it. -/
def expandStops (o : ReadOptions) : Except String TabStops := do
  let s ← o.given.foldlM (fun (s : TabScan) (c, v) =>
    let list := if c == 't' then some v else if c.isDigit then some (String.singleton c ++ v) else none
    match list with
    | none => .ok s
    | some list => (s.readOne list).mapError (tabFaults "expand")) {}
  s.stops.check.mapError fun e => "expand: " ++ e ++ "\n"

def expandSyntax : OptionSyntax :=
  { flags := ['i'], valued := ['t'], attached := "0123456789".toList,
    long := [("initial", 'i'), ("tabs", 't')] }

def tabsRun (tool : String) (t : ToolInput) (operands : List String) (convert : String → String) : ToolOutcome :=
  let names := if operands.isEmpty then ["-"] else operands
  let (text, r, _) := names.foldl (fun ((text : String), (r : Report), inputRead) n =>
    let content := if n == "-" then .ok (if inputRead then "" else t.input) else t.read n
    let inputRead := inputRead || n == "-"
    match content with
    | .ok more => (text ++ more, r, inputRead)
    | .error why => (text, r.warn (tool ++ ": " ++ shownName n ++ ": " ++ why ++ "\n"), inputRead)) ("", {}, false)
  t.finish (r.say (convert text))

def expandTool (t : ToolInput) (args : List String) : ToolOutcome :=
  match expandSyntax.read args with
  | .error e => t.fail (e.message "expand") 1
  | .ok o =>
    match expandStops o with
    | .error e => t.fail e 1
    | .ok stops => tabsRun "expand" t o.operands (expandTabs stops (o.has 'i'))

def unexpandSyntax : OptionSyntax :=
  { flags := ['a', ',', longOnly 1] ++ "0123456789".toList, valued := ['t'],
    long := [("all", 'a'), ("first-only", longOnly 1), ("tabs", 't')] }

def unexpandStops (o : ReadOptions) : Except String TabStops := do
  let (s, pending) ← o.given.foldlM (fun ((s : TabScan), (pending : Option Nat)) (c, v) =>
    if c == 't' then ((s.readOne v).map (·, pending)).mapError (tabFaults "unexpand")
    else if c == ',' then
      .ok ({ s with stops := { s.stops with stops := s.stops.stops ++ pending.toList } }, none)
    else if c.isDigit then
      let v := 10 * pending.getD 0 + (c.toNat - 48)
      if v ≤ TabScan.largest then .ok (s, some v) else .error "unexpand: tab stop value is too large\n"
    else .ok (s, pending)) (({} : TabScan), none)
  let stops := { s.stops with stops := s.stops.stops ++ pending.toList }
  stops.check.mapError fun e => "unexpand: " ++ e ++ "\n"

def unexpandTool (t : ToolInput) (args : List String) : ToolOutcome :=
  match unexpandSyntax.read args with
  | .error e => t.fail (e.message "unexpand") 1
  | .ok o =>
    match unexpandStops o with
    | .error e => t.fail e 1
    | .ok stops =>
      let all := (o.has 'a' || o.has 't') && !o.has (longOnly 1)
      tabsRun "unexpand" t o.operands (unexpandTabs stops all)

end Shell
end JuryCaptions
