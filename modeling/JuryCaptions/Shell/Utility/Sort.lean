import JuryCaptions.Shell.Utility
import JuryCaptions.Shell.Utility.Sort.Order
import JuryCaptions.Text.Wide
/-!
Sorting lines: `sort`.

Lines are compared by their keys in turn.
-/

namespace JuryCaptions
namespace Shell

/-- A sort key: first field and character, last field and character (none for
the line's end, character 0 for the field's), and how it compares. -/
structure SortKey where
  startField : Nat := 1
  startChar : Nat := 1
  endField : Option Nat := none
  endChar : Nat := 0
  order : KeyOrder := {}
  deriving Inhabited

def leadingNat (cs : List Char) : Option (Nat × List Char) :=
  let ds := cs.takeWhile Char.isDigit
  if ds.isEmpty then none else some ((String.ofList ds).toNat!, cs.drop ds.length)

def readSortKey (spec : String) : Except String SortKey := do
  let bad (why : String) : Except String SortKey :=
    .error (why ++ ": invalid field specification " ++ quoteText spec)
  let count (cs : List Char) (why : String) : Except String (Nat × List Char) :=
    match leadingNat cs with
    | some r => .ok r
    | none => .error (why ++ ": invalid count at start of " ++ quoteText (String.ofList cs))
  let (f, rest) ← count spec.toList "invalid number at field start"
  if f == 0 then bad "field number is zero" else
  let (c, rest) ← match rest with
    | '.' :: more => do
      let (c, more) ← count more "invalid number after '.'"
      if c == 0 then .error ("character offset is zero: invalid field specification " ++ quoteText spec)
      else pure (c, more)
    | _ => pure (1, rest)
  let startLetters := rest.takeWhile ("bdfgiMhnRrV".toList.contains ·)
  let some order := ({} : KeyOrder).withLetters true startLetters | bad "stray character in field spec"
  let rest := rest.drop startLetters.length
  match rest with
  | [] => pure { startField := f, startChar := c, order }
  | ',' :: more =>
    let (e, more) ← count more "invalid number after ','"
    if e == 0 then bad "field number is zero" else
    let (ec, more) ← match more with
      | '.' :: m => count m "invalid number after '.'"
      | _ => pure (0, more)
    let endLetters := more.takeWhile ("bdfgiMhnRrV".toList.contains ·)
    let some order := order.withLetters false endLetters | bad "stray character in field spec"
    if more.length != endLetters.length then bad "stray character in field spec"
    else pure { startField := f, startChar := c, endField := some e, endChar := ec, order }
  | _ => bad "stray character in field spec"

def skipFields (sep : Option Char) (line : List Char) (n : Nat) (pastSep : Bool) : List Char :=
  match sep with
  | some t =>
    (List.range n).foldl (fun (cs : List Char) i =>
      let cs := cs.dropWhile (· != t)
      if !cs.isEmpty && (pastSep || i + 1 < n) then cs.drop 1 else cs) line
  | none => (List.range n).foldl (fun (cs : List Char) _ => (cs.dropWhile isBlankChar).dropWhile (!isBlankChar ·)) line

def SortKey.span (k : SortKey) (sep : Option Char) (line : String) : Nat × Nat :=
  let cs := line.toList
  let total := cs.length
  let start :=
    let here := skipFields sep cs (k.startField - 1) true
    let here := if k.order.blanksAtStart then here.dropWhile isBlankChar else here
    total - (here.drop (k.startChar - 1)).length
  let stop := match k.endField with
    | none => total
    | some e =>
      if k.endChar == 0 then total - (skipFields sep cs e false).length
      else
        let here := skipFields sep cs (e - 1) true
        let here := if k.order.blanksAtEnd then here.dropWhile isBlankChar else here
        total - (here.drop k.endChar).length
  (start, max start stop)

def SortKey.text (k : SortKey) (sep : Option Char) (line : String) : List Char :=
  let (start, stop) := k.span sep line
  (line.toList.drop start).take (stop - start)

structure SortSettings where
  keys : List SortKey
  sep : Option Char
  reverse : Bool
  stable : Bool
  unique : Bool

def SortSettings.compareLines (s : SortSettings) (a b : String) : Ordering :=
  let byKeys := s.keys.foldl (fun (acc : Ordering) k =>
    match acc with
    | .eq =>
      let o := k.order.compareKeys (k.text s.sep a) (k.text s.sep b)
      if k.order.reverse then o.swap else o
    | _ => acc) .eq
  match byKeys with
  | .eq =>
    if !s.keys.isEmpty && (s.stable || s.unique) then .eq
    else
      let o := compareBytes a.toList b.toList
      if s.reverse then o.swap else o
  | o => o

def mergeRuns (s : SortSettings) : Nat → List (List String) → List String
  | 0, _ => []
  | f + 1, runs =>
    let heads := runs.zipIdx.filterMap fun (r, i) => r.head?.map (·, i)
    match heads with
    | [] => []
    | first :: more =>
      let (line, chosen) := more.foldl (fun (best : String × Nat) (l, i) =>
        if s.compareLines l best.1 == .lt then (l, i) else best) first
      line :: mergeRuns s f (runs.zipIdx.map fun (r, i) => if i == chosen then r.drop 1 else r)

def SortSettings.firstOfEqual (s : SortSettings) (lines : List String) : List String :=
  (lines.foldl (fun (acc : List String) l =>
    match acc with
    | last :: _ => if s.compareLines last l == .eq then acc else l :: acc
    | [] => [l]) []).reverse

def SortKey.marked (k : SortKey) (whole : Bool) (cs : List Char) (start stop : Nat) : Nat × Nat :=
  let o := k.order
  if !((o.blanksAtStart && whole) || o.month || o.numeric || o.general || o.human) then (start, stop)
  else
    let blanks := ((cs.drop start).take (stop - start)).takeWhile isBlankChar
    let beg := start + blanks.length
    let region := (cs.drop beg).take (stop - beg)
    let reach : Nat :=
      if o.month then (if monthOf region != 0 then 3 else 0)
      else if o.general then
        match ExtendedValue.read region with
        | some v => region.length - v.rest.length
        | none => 0
      else if o.numeric || o.human then
        let minus := if region.headD ' ' == '-' then 1 else 0
        let body := region.drop minus
        let whole := body.takeWhile Char.isDigit
        let frac := match body.drop whole.length with
          | '.' :: more => some (more.takeWhile Char.isDigit)
          | _ => none
        let digits := whole.length + (frac.map (·.length)).getD 0
        let length := minus + whole.length + (frac.map (·.length + 1)).getD 0
        let unit := o.human && "KMGTPEZYRQk".toList.contains ((region.drop length).headD ' ')
        if digits == 0 then 0 else length + (if unit then 1 else 0)
      else stop - beg
    (beg, beg + reach)

def debugWidth (cs : List Char) : Nat :=
  (Wide.decode (String.ofList cs)).foldl (fun n c =>
    n + if c == '\t' || Wide.isStray c then 1 else (Wide.width c).getD 0) 0

/-- A line as `--debug` writes it, with the marks of its keys under it: a line of
underscores under each key, or a note that it is empty. -/
def SortSettings.debugLine (s : SortSettings) (line : String) : String :=
  let cs := line.toList
  let mark (offset width : Nat) : String :=
    String.ofList (List.replicate offset ' ') ++
      (if width == 0 then "^ no match for key\n" else String.ofList (List.replicate width '_') ++ "\n")
  let markSpan (beg lim : Nat) : String :=
    mark (debugWidth (cs.take beg)) (debugWidth ((cs.drop beg).take (lim - beg)))
  let keyMarks := s.keys.map fun k =>
    let whole := k.startField == 1 && k.startChar == 1
    let (start, stop) := k.span s.sep line
    let (beg, lim) := k.marked whole cs start stop
    markSpan beg (max beg lim)
  let last := if s.keys.isEmpty || !(s.stable || s.unique) then [markSpan 0 cs.length] else []
  String.ofList (cs.map fun c => if c == '\t' then '>' else c) ++ "\n" ++ String.join (keyMarks ++ last)

def sortDebugNotes (given keys : List SortKey) (global : KeyOrder) (sep : Option Char) (stable unique : Bool) :
    List String :=
  let onlyGlobal := given.isEmpty
  let numeric (o : KeyOrder) : Bool := o.numeric || o.general || o.human
  let perKey := keys.zipIdx.flatMap fun (k, i) =>
    let n := toString (i + 1)
    let zeroWidth := match k.endField with
      | some e => e < k.startField
      | none => false
    let lineOffset := k.endField == some 1 && k.endChar != 0
    let implicitSkip := numeric k.order || k.order.month
    let sb := k.order.blanksAtStart
    let eb := k.order.blanksAtEnd
    let blanks := !zeroWidth && !onlyGlobal && sep.isNone && !lineOffset &&
      ((!sb && !implicitSkip) || (!sb && k.startChar > 1) || (!eb && k.endChar != 0))
    let spans := !onlyGlobal && numeric k.order && match k.endField with
      | none => true
      | some e => k.startField < e
    (if zeroWidth then ["key " ++ n ++ " has zero width and will be ignored"] else []) ++
    (if blanks then ["leading blanks are significant in key " ++ n ++ "; consider also specifying 'b'"] else []) ++
    (if spans then ["key " ++ n ++ " is numeric and spans multiple fields"] else [])
  let spanning := !onlyGlobal && keys.any fun k => numeric k.order && match k.endField with
    | none => true
    | some e => k.startField < e
  let generalSpan := !onlyGlobal && keys.any fun k => k.order.general && match k.endField with
    | none => true
    | some e => k.startField < e
  let (separatorNotes, warned) : List String × Bool :=
    if !spanning then ([], false)
    else if sep == some '.' then
      (["field separator " ++ quoteText "." ++ " is treated as a decimal point in numbers"], true)
    else if sep == some '-' then (["field separator " ++ quoteText "-" ++ " is treated as a minus sign in numbers"], false)
    else if generalSpan && sep == some '+' then
      (["field separator " ++ quoteText "+" ++ " is treated as a plus sign in numbers"], false)
    else ([], false)
  let decimal := if keys.any (numeric ·.order) && !warned then
      ["note numbers use " ++ quoteText "." ++ " as a decimal point in this locale"] else []
  let unused : KeyOrder := keys.foldl (fun (u : KeyOrder) k =>
    { u with blanksAtStart := u.blanksAtStart && !k.order.blanksAtStart,
             blanksAtEnd := u.blanksAtEnd && !k.order.blanksAtEnd,
             dictionary := u.dictionary && !k.order.dictionary, foldCase := u.foldCase && !k.order.foldCase,
             general := u.general && !k.order.general, human := u.human && !k.order.human,
             printable := u.printable && !k.order.printable, month := u.month && !k.order.month,
             numeric := u.numeric && !k.order.numeric, version := u.version && !k.order.version,
             reverse := u.reverse && !k.order.reverse }) global
  let letters (u : KeyOrder) : String :=
    let letter (b : Bool) (c : Char) : List Char := if b then [c] else []
    String.ofList (letter (u.blanksAtStart || u.blanksAtEnd) 'b' ++ letter u.dictionary 'd' ++
      letter u.foldCase 'f' ++ letter u.general 'g' ++ letter u.human 'h' ++
      letter (u.printable && !u.dictionary) 'i' ++ letter u.month 'M' ++ letter u.numeric 'n' ++
      letter u.reverse 'r' ++ letter u.version 'V')
  let shownUnused := if stable || unique then unused else { unused with reverse := false }
  let ignored := if !(unused.plain && !unused.reverse) || (unused.reverse && (stable || unique) && !keys.isEmpty) then
      let ls := letters shownUnused
      if ls.isEmpty then []
      else if ls.length == 1 then ["option '-" ++ ls ++ "' is ignored"]
      else ["options '-" ++ ls ++ "' are ignored"]
    else []
  let lastResort := if unused.reverse && !(stable || unique) && !keys.isEmpty then
      ["option '-r' only applies to last-resort comparison"] else []
  ["text ordering performed using " ++ quoteText "C.UTF-8" ++ " sorting rules"] ++ perKey ++ separatorNotes ++
    decimal ++ ignored ++ lastResort

def sortSyntax : OptionSyntax :=
  { flags := "bdfgiMhnRrVcCmsuz".toList ++ [longOnly 1], valued := ['k', 't', 'o', 'S', 'T'],
    long := [("ignore-leading-blanks", 'b'), ("dictionary-order", 'd'), ("ignore-case", 'f'),
             ("numeric-sort", 'n'), ("reverse", 'r'), ("check", 'c'), ("merge", 'm'), ("stable", 's'),
             ("unique", 'u'), ("key", 'k'), ("field-separator", 't'), ("output", 'o'),
             ("ignore-nonprinting", 'i'), ("general-numeric-sort", 'g'), ("human-numeric-sort", 'h'),
             ("month-sort", 'M'), ("version-sort", 'V'), ("random-sort", 'R'), ("zero-terminated", 'z'),
             ("buffer-size", 'S'), ("temporary-directory", 'T'), ("debug", longOnly 1)] }

def sortKeysOf (given : List (Char × String)) : Except String (List SortKey × Option Char) :=
  given.foldlM (fun (keys, sep) (c, v) =>
    if c == 'k' then (readSortKey v).map fun k => (keys ++ [k], sep)
    else if c == 't' then
      let bytes := v.toUTF8.size
      let tab : Except String Char :=
        if bytes == 0 then .error "empty tab"
        else if v == "\\0" then .ok (Char.ofNat 0)
        else if bytes > 1 then .error ("multi-character tab " ++ quoteText v)
        else .ok (v.toList.headD ' ')
      tab.bind fun t =>
        match sep with
        | some old => if old != t then .error "incompatible tabs" else .ok (keys, sep)
        | none => .ok (keys, some t)
    else .ok (keys, sep)) ([], none)

def sortTool (t : ToolInput) (args : List String) : ToolOutcome :=
  match sortSyntax.read args with
  | .error e => t.fail (e.message "sort") 2
  | .ok o =>
    let globalLetters := o.given.filterMap fun (c, _) =>
      if "bdfgiMhnRrV".toList.contains c then some c else none
    let global := (({} : KeyOrder).withLetters true globalLetters).getD {}
    let global := if globalLetters.contains 'b' then { global with blanksAtEnd := true } else global
    match sortKeysOf o.given with
    | .error e => t.fail ("sort: " ++ e ++ "\n") 2
    | .ok (keys, sep) =>
      let givenKeys := keys
      let keys := keys.map fun k =>
        if k.order.plain && !k.order.reverse then { k with order := global } else k
      let keys := if keys.isEmpty && !(global.plain && !global.reverse) then [{ order := global }] else keys
      match keys.findSome? (·.order.clash) with
      | some letters => t.fail ("sort: options '-" ++ letters ++ "' are incompatible\n") 2
      | none =>
      let settings : SortSettings :=
        { keys, sep, reverse := global.reverse, stable := o.has 's', unique := o.has 'u' }
      let ending := if o.has 'z' then "\x00" else "\n"
      let records (text : String) : List String :=
        if o.has 'z' then
          let parts := text.splitOn "\x00"
          if text.endsWith "\x00" then parts.dropLast else if text.isEmpty then [] else parts
        else bodiesOf text
      let names := o.operandsOr "-"
      let check := if o.has 'c' then some 'c' else if o.has 'C' then some 'C' else none
      match check with
      | some mode =>
        match names with
        | _ :: extra :: _ =>
          t.fail ("sort: extra operand " ++ quoteName extra ++ " not allowed with -" ++ String.singleton mode ++ "\n") 2
        | _ =>
          if o.has 'o' then t.fail ("sort: options '-" ++ String.singleton mode ++ "o' are incompatible\n") 2
          else
            let name := names.headD "-"
            match t.source name with
            | .error why =>
              t.fail ("sort: " ++ (if why == "Is a directory" then "read failed: " else "open failed: ") ++
                shownName name ++ ": " ++ why ++ "\n") 2
            | .ok text =>
              let lines := records text
              let bad := (lines.zipIdx.zip (lines.drop 1)).find? fun ((a, _), b) =>
                match settings.compareLines a b with
                | .gt => true
                | .eq => settings.unique
                | .lt => false
              match bad with
              | none => { files := t.files }
              | some ((_, i), b) =>
                if mode == 'C' then { status := 1, files := t.files }
                else t.fail ("sort: " ++ name ++ ":" ++ toString (i + 2) ++ ": disorder: " ++ b ++ ending) 1
      | none =>
        let read : Except (String × String) (List (List String)) := names.foldlM (fun acc n =>
          match t.source n with
          | .ok text => .ok (acc ++ [records text])
          | .error why => .error (n, why)) []
        match read with
        | .error (n, why) =>
          t.fail ("sort: " ++ (if why == "Is a directory" then "read failed: " else "cannot read: ") ++
            shownName n ++ ": " ++ why ++ "\n") 2
        | .ok runs =>
          let sorted :=
            if o.has 'm' then mergeRuns settings (runs.foldl (· + ·.length) 1) runs
            else runs.flatten.mergeSort fun a b => settings.compareLines a b != .gt
          let sorted := if settings.unique then settings.firstOfEqual sorted else sorted
          let debug := o.has (longOnly 1)
          let out := if debug then String.join (sorted.map settings.debugLine)
            else String.join (sorted.map (· ++ ending))
          let notes := if debug then
              (sortDebugNotes givenKeys keys global sep (o.has 's') (o.has 'u')).map fun n => (2, "sort: " ++ n ++ "\n")
            else []
          let withNotes (outcome : ToolOutcome) : ToolOutcome := { outcome with writes := notes ++ outcome.writes }
          withNotes <| match o.last? 'o' with
          | some target =>
            match t.files.write (t.resolve target) out false with
            | .ok files => { files }
            | .error _ => t.fail ("sort: open failed: " ++ shownName target ++ ": No such file or directory\n") 2
          | none => t.done out

end Shell
end JuryCaptions
