import JuryCaptions.Shell.Utility.Tree
import JuryCaptions.Shell.Utility.Sort.Order
import JuryCaptions.Text.Wide
import JuryCaptions.Shell.Utility.Printf
import JuryCaptions.Shell.Expand
import JuryCaptions.System.Mode
/-!
Listing directories: `ls` shows the files it is given, then each directory's
names under a header when there are several operands or it recurses; a blank
line stands before every header but a first one.
-/

namespace JuryCaptions
namespace Shell

inductive ListOrder where
  | byName
  | byTime
  | bySize
  | byExtension
  | byVersion
  deriving BEq

inductive ListLayout where
  | lines
  | commas
  | columns
  | across
  | long
  deriving BEq

inductive NameQuoting where
  | literal
  /-- Backslash escapes for blanks, backslashes and what cannot be printed. -/
  | escaped
  /-- In double quotes with backslash escapes. -/
  | quoted
  /-- In double quotes only when an escape is needed. -/
  | quotedMaybe
  /-- In the curved quotes of the locale with backslash escapes. -/
  | locale
  /-- In single quotes when the shell would read it specially; `always`
  quotes every name, `escapes` writes what cannot be printed in
  \x60$'…'\x60. -/
  | shell (always escapes : Bool)
  deriving BEq

/-- A name `ls` shows: as it is shown, the path it stands for and its entry. -/
structure ListItem where
  name : String
  path : String
  entry : Entry

structure ListStyle where
  order : ListOrder := .byName
  reverse : Bool := false
  /-- Which names starting with a point are shown: none, all but `.` and `..`, or all. -/
  hidden : Nat := 0
  /-- The marks after names: none, a slash after directories, also the other
  marks of their kind, or also a star after programs. -/
  indicator : Nat := 0
  quoting : NameQuoting := .literal
  /-- Whether what cannot be printed is shown as `?`. -/
  hideControls : Bool := false
  layout : ListLayout := .lines
  recursive : Bool := false
  /-- The width of a line, none for no limit. -/
  width : Option Nat := some 80
  tabSize : Nat := 8
  /-- The patterns of names never shown, and of those shown only with `-a` or `-A`. -/
  ignore : List String := []
  hide : List String := []
  ignoreBackups : Bool := false
  dirsFirst : Bool := false
  /-- Whether the blocks each file takes stand before its name. -/
  sizes : Bool := false
  human : Bool := false
  showOwner : Bool := true
  showGroup : Bool := true
  numeric : Bool := false
  color : Bool := false

def entrySize : Entry → Nat
  | .file t _ => t.length
  | .dir => 4096
  | .tool _ => 0

def extensionOf (name : String) : String :=
  match (name.splitOn ".").reverse with
  | last :: _ :: _ => "." ++ last
  | _ => ""

namespace ListStyle

def before (s : ListStyle) (files : Files) (a b : ListItem) : Bool :=
  let byName := decide (a.name ≤ b.name)
  match s.order with
  | .byName => byName
  | .byTime =>
    let x := files.stamp a.path
    let y := files.stamp b.path
    x > y || (x == y && byName)
  | .bySize =>
    let x := entrySize a.entry
    let y := entrySize b.entry
    x > y || (x == y && byName)
  | .byExtension =>
    let x := extensionOf a.name
    let y := extensionOf b.name
    decide (x < y) || (x == y && byName)
  | .byVersion =>
    match compareVersions a.name.toList b.name.toList with
    | .lt => true
    | .gt => false
    | .eq => byName

def sort (s : ListStyle) (files : Files) (items : List ListItem) : List ListItem :=
  let sorted := items.mergeSort fun a b => if s.reverse then s.before files b a else s.before files a b
  if s.dirsFirst then sorted.filter (·.entry == .dir) ++ sorted.filter (·.entry != .dir) else sorted

def escapedWith (extra : List Char) (cs : List Char) : String :=
  String.join (cs.map fun c =>
    if extra.contains c || c == '\\' then "\\" ++ String.singleton c
    else if Wide.isPrint c then Wide.encodeOne c else escapeChar c)

def quotes (s : ListStyle) (name : String) : Bool :=
  let cs := Wide.decode name
  match s.quoting with
  | .literal | .escaped => false
  | .quoted | .locale => true
  | .quotedMaybe => cs.any fun c => c == '"' || c == '\\' || !Wide.isPrint c
  | .shell always _ => always || cs.isEmpty || cs.zipIdx.any fun (c, i) => needsQuotes cs.length i c

def shownName (s : ListStyle) (name : String) : String :=
  let cs := Wide.decode name
  let quoted := match s.quoting with
    | .literal => name
    | .escaped => escapedWith [' '] cs
    | .quoted => "\"" ++ escapedWith ['"'] cs ++ "\""
    | .quotedMaybe => if s.quotes name then "\"" ++ escapedWith ['"'] cs ++ "\"" else name
    | .locale =>
      String.ofList [Char.ofNat 0xE2, Char.ofNat 0x80, Char.ofNat 0x98] ++ escapedWith [] cs ++
        String.ofList [Char.ofNat 0xE2, Char.ofNat 0x80, Char.ofNat 0x99]
    | .shell always escapes => quoteForShell always escapes cs
  if s.hideControls then Wide.encode ((Wide.decode quoted).map fun c => if Wide.isPrint c then c else '?')
  else quoted

def mark (s : ListStyle) (i : ListItem) : String :=
  match i.entry with
  | .dir => if s.indicator ≥ 1 then "/" else ""
  | .file _ true | .tool _ => if s.indicator ≥ 3 then "*" else ""
  | _ => ""

def colorOf (i : ListItem) : Option String :=
  match i.entry with
  | .dir => some "01;34"
  | .file _ true | .tool _ => some "01;32"
  | _ => none

def labelWidth (label : String) : Nat :=
  (Wide.decode label).foldl (fun n c => n + (Wide.width c).getD 1) 0

def indent (tab : Nat) : Nat → Nat → Nat → String
  | 0, _, _ => ""
  | f + 1, here, there =>
    if here ≥ there then ""
    else if tab != 0 && there / tab > (here + 1) / tab then "\t" ++ indent tab f (here + tab - here % tab) there
    else " " ++ indent tab f (here + 1) there

/-- The column widths of labels laid out in `cols` columns, downwards when
`down`, each but the last two blanks past its widest label. -/
def columnWidths (widths : List Nat) (cols : Nat) (down : Bool) : List Nat :=
  let n := widths.length
  let rows := (n + cols - 1) / cols
  widths.zipIdx.foldl (fun acc (w, k) =>
    let col := if down then k / rows else k % cols
    let need := w + (if col + 1 == cols then 0 else 2)
    acc.set col (max (acc.getD col 3) need)) (List.replicate cols 3)

def fitColumns (width : Option Nat) (widths : List Nat) (down : Bool) : Nat × List Nat :=
  match width with
  | none => (max 1 widths.length, columnWidths widths (max 1 widths.length) down)
  | some w =>
    let most := max 1 (min (w / 3) widths.length)
    let fits (cols : Nat) : Bool := (columnWidths widths cols down).foldl (· + ·) 0 < w
    let cols := ((List.range most).reverse.map (· + 1)).find? fits |>.getD 1
    (cols, columnWidths widths cols down)

/-- A size for people: as is below 1024, else in the largest binary unit leaving
a whole part below 1024, rounded up, one decimal below ten. -/
def humanSize (n : Nat) : String :=
  let units := ["K", "M", "G", "T", "P", "E", "Z", "Y", "R", "Q"]
  let rec go : List String → Nat → String
    | [], _ => toString n
    | u :: more, scale =>
      if n / scale ≥ 1024 && !more.isEmpty then go more (scale * 1024)
      else if n / scale < 10 then
        let tenths := (n * 10 + scale - 1) / scale
        if tenths < 100 then toString (tenths / 10) ++ "." ++ toString (tenths % 10) ++ u else "10" ++ u
      else
        let whole := (n + scale - 1) / scale
        if whole ≥ 1024 && !more.isEmpty then "1.0" ++ more.headD u else toString whole ++ u
  if n < 1024 then toString n else go units 1024

def blocksOfEntry : Entry → Nat
  | .dir => 4
  | .file t _ => 4 * ((t.length + 4095) / 4096)
  | .tool _ => 0

def blocksText (s : ListStyle) (n : Nat) : String := if s.human then humanSize (1024 * n) else toString n

def linksOf (files : Files) (i : ListItem) : Nat :=
  match i.entry with
  | .dir => 2 + ((files.list i.path).toOption.getD []).countP (·.2 == .dir)
  | _ => 1

def modeText (files : Files) (i : ListItem) : String :=
  (if i.entry == .dir then "d" else "-") ++ Mode.letters (files.mode i.path)

def padTo (left : Bool) (width : Nat) (t : String) : String :=
  let pad := String.ofList (List.replicate (width - labelWidth t) ' ')
  if left then t ++ pad else pad ++ t

def render (s : ListStyle) (files : Files) (items : List ListItem) : String :=
  let align := s.layout == .long || ((s.layout == .columns || s.layout == .across) && s.width.isSome)
  let aligned := align && (match s.quoting with
    | .shell _ _ | .quotedMaybe => true
    | _ => false) && items.any (s.quotes ·.name)
  let nameOf (i : ListItem) : String :=
    let text := s.shownName i.name
    let text := if aligned && !s.quotes i.name then " " ++ text else text
    let text := match s.color, colorOf i with
      | true, some c => "\x1b[" ++ c ++ "m" ++ text ++ "\x1b[0m"
      | _, _ => text
    text ++ s.mark i
  let widthOf (i : ListItem) : Nat := labelWidth (s.shownName i.name) + (s.mark i).length +
    (if aligned && !s.quotes i.name then 1 else 0)
  let blockTexts := items.map fun i => s.blocksText (blocksOfEntry i.entry)
  let blockWidth := blockTexts.foldl (fun w b => max w b.length) 0
  let blockLead (k : Nat) : String :=
    if s.sizes then padTo false (if s.layout == .commas then 0 else blockWidth) (blockTexts.getD k "") ++ " " else ""
  let leadWidth := if s.sizes then blockWidth + 1 else 0
  let colored (out : String) : String :=
    if s.color && items.any (colorOf · |>.isSome) then
      match out.splitOn "\x1b[" with
      | first :: rest => first ++ "\x1b[0m" ++ "\x1b[".intercalate ("" :: rest)
      | [] => out
    else out
  colored <| match s.layout with
  | .lines => String.join (items.zipIdx.map fun (i, k) => blockLead k ++ nameOf i ++ "\n")
  | .long =>
    let links := items.map fun i => toString (linksOf files i)
    let owner := if s.numeric then "0" else "root"
    let sizes := items.map fun i => if s.human then humanSize (entrySize i.entry) else toString (entrySize i.entry)
    let linkWidth := links.foldl (fun w l => max w l.length) 0
    let sizeWidth := sizes.foldl (fun w l => max w l.length) 0
    String.join (items.zipIdx.map fun (i, k) =>
      blockLead k ++ modeText files i ++ " " ++ padTo false linkWidth (links.getD k "") ++ " " ++
        (if s.showOwner then owner ++ " " else "") ++ (if s.showGroup then owner ++ " " else "") ++
        padTo false sizeWidth (sizes.getD k "") ++ " Jan  1 00:00 " ++ nameOf i ++ "\n")
  | .columns | .across =>
    if items.isEmpty then ""
    else
      let down := s.layout == .columns
      let widths := items.map fun i => leadWidth + widthOf i
      let (cols, colWidths) := fitColumns s.width widths down
      let n := items.length
      let rows := (n + cols - 1) / cols
      let cell (row col : Nat) : Option Nat :=
        let k := if down then col * rows + row else row * cols + col
        if k < n && (down || col < cols) then some k else none
      String.join ((List.range rows).map fun row =>
        let ks := (List.range cols).filterMap (cell row)
        let (line, _) := ks.zipIdx.foldl (fun (line, pos) (k, col) =>
          let w := colWidths.getD col 0
          let here := pos + widths.getD k 0
          let last := col + 1 == ks.length
          (line ++ blockLead k ++ (items[k]?.map nameOf).getD "" ++
            (if last then "" else indent s.tabSize (w + 1) here (pos + w)), pos + w)) ("", 0)
        line ++ "\n")
  | .commas =>
    if items.isEmpty then ""
    else
      let (out, _) := items.zipIdx.foldl (fun (acc : String × Option Nat) (i, k) =>
        let len := if s.width.isSome then (if s.sizes then (blockTexts.getD k "").length + 1 else 0) + widthOf i else 0
        let text := blockLead k ++ nameOf i
        match acc with
        | (_, none) => (text, some len)
        | (out, some pos) =>
          if s.width.all (pos + len + 2 < ·) then (out ++ ", " ++ text, some (pos + 2 + len))
          else (out ++ ",\n" ++ text, some len)) ("", none)
      out ++ "\n"

/-- Whether a name is left out of a listing: a name starting with a point unless `-a` or
`-A` (which still leaves out `.` and `..`) asks for it. -/
def leftOut (s : ListStyle) (name : String) : Bool :=
  let matches? (p : String) : Bool :=
    globMatch (p.toList.map (·, true)) name && (!name.startsWith "." || p.startsWith ".")
  (s.hidden != 2 && name.startsWith "." && (s.hidden == 0 || name == "." || name == "..")) ||
    (s.hidden == 0 && s.hide.any matches?) || s.ignore.any matches? ||
    (s.ignoreBackups && name.endsWith "~")

end ListStyle

def blocksOf (items : List ListItem) : Nat :=
  items.foldl (fun n i => n + ListStyle.blocksOfEntry i.entry) 0

def listItems (s : ListStyle) (files : Files) (dir : String) : List ListItem :=
  let inside := (files.list dir).toOption.getD []
  let all : List ListItem := [⟨".", dir, .dir⟩, ⟨"..", Path.dir dir, .dir⟩] ++ inside.map fun (n, e) =>
    ⟨n, Path.join [dir, n], e⟩
  all.filter fun i => !s.leftOut i.name

def listTree (s : ListStyle) (files : Files) (headers : Bool) : Nat → String → String → Bool → String
  | 0, _, _, _ => ""
  | f + 1, dir, shown, first =>
    let items := s.sort files (listItems s files dir)
    let head := if headers || s.recursive then (if first then "" else "\n") ++ s.shownName shown ++ ":\n" else ""
    let total := if s.layout == .long || s.sizes then "total " ++ s.blocksText (blocksOf items) ++ "\n" else ""
    let here := head ++ total ++ s.render files items
    if !s.recursive then here
    else
      let lead := if shown.endsWith "/" then shown else shown ++ "/"
      let below := items.filter fun i => i.entry == .dir && i.name != "." && i.name != ".."
      below.foldl (fun out i => out ++ listTree s files headers f i.path (lead ++ i.name) false) here

def lsSyntax : OptionSyntax :=
  { flags := "aAdr1UftSXvpFQmRCxlbqNBsghnoGkLHcu".toList ++ [longOnly 1, longOnly 2],
    valued := ['w', 'T', 'I', longOnly 3, longOnly 4, longOnly 5, longOnly 6, longOnly 7],
    optional := [longOnly 8, longOnly 9],
    long := [("all", 'a'), ("almost-all", 'A'), ("directory", 'd'), ("reverse", 'r'), ("recursive", 'R'),
             ("classify", longOnly 9), ("quote-name", 'Q'), ("escape", 'b'), ("hide-control-chars", 'q'),
             ("literal", 'N'), ("width", 'w'), ("tabsize", 'T'), ("ignore", 'I'), ("ignore-backups", 'B'),
             ("size", 's'), ("human-readable", 'h'), ("numeric-uid-gid", 'n'), ("no-group", 'G'),
             ("dereference", 'L'), ("dereference-command-line", 'H'), ("kibibytes", 'k'),
             ("group-directories-first", longOnly 1), ("file-type", longOnly 2), ("hide", longOnly 3),
             ("sort", longOnly 4), ("format", longOnly 5), ("quoting-style", longOnly 6),
             ("indicator-style", longOnly 7), ("color", longOnly 8), ("show-control-chars", longOnly 10)] }

def lsChoices (c : Char) : List (List String) :=
  if c == longOnly 4 then [["none"], ["time"], ["size"], ["extension"], ["version"], ["width"]]
  else if c == longOnly 5 then [["verbose", "long"], ["commas"], ["horizontal", "across"], ["vertical"],
    ["single-column"]]
  else if c == longOnly 6 then [["literal"], ["shell"], ["shell-always"], ["shell-escape"], ["shell-escape-always"],
    ["c"], ["c-maybe"], ["escape"], ["locale"], ["clocale"]]
  else if c == longOnly 7 then [["none"], ["slash"], ["file-type"], ["classify"]]
  else [["always", "yes", "force"], ["never", "no", "none"], ["auto", "tty", "if-tty"]]

def lsChoiceName (c : Char) : String :=
  if c == longOnly 4 then "sort" else if c == longOnly 5 then "format"
  else if c == longOnly 6 then "quoting-style" else if c == longOnly 7 then "indicator-style"
  else if c == longOnly 8 then "color" else "classify"

def lsChoice (c : Char) (v : String) : Except String String :=
  readChoice "ls" (lsChoiceName c) (lsChoices c) v

/-- A width of `-w`: a count in decimal, octal after `0` or hexadecimal
after `0x`; one too large for 64 bits is no limit, given as zero. -/
def readOptionWidth (v : String) : Option Nat :=
  let cs := v.toList.dropWhile isSpaceChar
  let cs := if cs.head? == some '+' then cs.drop 1 else cs
  let (base, ds) : Nat × List Char := match cs with
    | '0' :: x :: rest => if x == 'x' || x == 'X' then (16, rest) else (8, cs)
    | _ => (10, cs)
  if ds.isEmpty || !ds.all (fun c => (digitIn base c).isSome) then none
  else
    let n := ds.foldl (fun n c => base * n + (digitIn base c).getD 0) 0
    some (if n < Nat.pow 2 63 then n else 0)

def ListStyle.ofOptions (given : List (Char × String)) : Except String ListStyle :=
  given.foldlM (fun (s : ListStyle) (c, v) =>
    match c with
    | 'a' => .ok { s with hidden := 2 }
    | 'A' => .ok { s with hidden := 1 }
    | 'f' => .ok { s with hidden := 2, order := .byName, layout := if s.layout == .long then .lines else s.layout,
                          sizes := false, color := false }
    | 'r' => .ok { s with reverse := true }
    | 't' => .ok { s with order := .byTime }
    | 'S' => .ok { s with order := .bySize }
    | 'X' => .ok { s with order := .byExtension }
    | 'v' => .ok { s with order := .byVersion }
    | 'U' => .ok { s with order := .byName }
    | 'p' => .ok { s with indicator := 1 }
    | 'F' => .ok { s with indicator := 3 }
    | 'Q' => .ok { s with quoting := .quoted }
    | 'b' => .ok { s with quoting := .escaped }
    | 'q' => .ok { s with hideControls := true }
    | 'N' => .ok { s with quoting := .literal }
    | 'm' => .ok { s with layout := .commas }
    | '1' => .ok { s with layout := if s.layout == .long then .long else .lines }
    | 'C' => .ok { s with layout := .columns }
    | 'x' => .ok { s with layout := .across }
    | 'l' => .ok { s with layout := .long }
    | 'n' => .ok { s with layout := .long, numeric := true }
    | 'g' => .ok { s with layout := .long, showOwner := false }
    | 'o' => .ok { s with layout := .long, showGroup := false }
    | 'G' => .ok { s with showGroup := false }
    | 'h' => .ok { s with human := true }
    | 's' => .ok { s with sizes := true }
    | 'R' => .ok { s with recursive := true }
    | 'B' => .ok { s with ignoreBackups := true }
    | 'I' => .ok { s with ignore := s.ignore ++ [v] }
    | 'w' =>
      match readOptionWidth v with
      | some w => .ok { s with width := if w == 0 then none else some w }
      | none => .error ("ls: invalid line width: " ++ quoteText v ++ "\n")
    | 'T' =>
      match v.toNat? with
      | some n => .ok { s with tabSize := n }
      | none => .error ("ls: invalid tab size: " ++ quoteText v ++ "\n")
    | _ =>
      if c == longOnly 1 then .ok { s with dirsFirst := true }
      else if c == longOnly 2 then .ok { s with indicator := 2 }
      else if c == longOnly 3 then .ok { s with hide := s.hide ++ [v] }
      else if c == longOnly 10 then .ok { s with hideControls := false }
      else if c == longOnly 9 then
        if v.isEmpty then .ok { s with indicator := 3 }
        else (lsChoice c v).map fun w => if w == "always" then { s with indicator := 3 } else s
      else if c == longOnly 8 then
        if v.isEmpty then .ok { s with color := true }
        else (lsChoice c v).map fun w => { s with color := w == "always" }
      else if [longOnly 4, longOnly 5, longOnly 6, longOnly 7].contains c then
        (lsChoice c v).map fun w =>
          if c == longOnly 4 then
            match w with
            | "time" => { s with order := .byTime }
            | "size" => { s with order := .bySize }
            | "extension" => { s with order := .byExtension }
            | "version" => { s with order := .byVersion }
            | _ => { s with order := .byName }
          else if c == longOnly 5 then
            match w with
            | "verbose" => { s with layout := .long }
            | "commas" => { s with layout := .commas }
            | "horizontal" => { s with layout := .across }
            | "vertical" => { s with layout := .columns }
            | _ => { s with layout := .lines }
          else if c == longOnly 6 then
            match w with
            | "shell" => { s with quoting := .shell false false }
            | "shell-always" => { s with quoting := .shell true false }
            | "shell-escape" => { s with quoting := .shell false true }
            | "shell-escape-always" => { s with quoting := .shell true true }
            | "c" => { s with quoting := .quoted }
            | "c-maybe" => { s with quoting := .quotedMaybe }
            | "escape" => { s with quoting := .escaped }
            | "locale" | "clocale" => { s with quoting := .locale }
            | _ => { s with quoting := .literal }
          else
            match w with
            | "slash" => { s with indicator := 1 }
            | "file-type" => { s with indicator := 2 }
            | "classify" => { s with indicator := 3 }
            | _ => { s with indicator := 0 }
      else .ok s) {}

def lsTool (t : ToolInput) (args : List String) : ToolOutcome :=
  match lsSyntax.read args with
  | .error e => t.fail (e.message "ls") 2
  | .ok o =>
    match ListStyle.ofOptions o.given with
    | .error e => t.fail e 2
    | .ok style =>
    let style := if o.has 'd' then { style with recursive := false } else style
    let names := o.operandsOr "."
    let found := names.map fun n => (n, t.files.lookup (t.resolve n))
    let r : Report := found.foldl (fun (r : Report) (n, e) => match e with
      | .error _ => r.warn ("ls: cannot access " ++ quoteName n ++ ": " ++ reachProblem e ++ "\n")
      | .ok _ => r) {}
    let items := found.filterMap fun (n, e) => e.toOption.map fun e => (⟨n, t.resolve n, e⟩ : ListItem)
    let isDir (i : ListItem) : Bool := i.entry == .dir && !o.has 'd'
    let plain := style.sort t.files (items.filter (!isDir ·))
    let dirs := style.sort t.files (items.filter isDir)
    let r := r.say (style.render t.files plain)
    let headers := names.length > 1
    let (r, _) := dirs.foldl (fun ((r : Report), first) d =>
      (r.say (listTree style t.files headers (t.files.entries.length + 1) d.path d.name (first && plain.isEmpty)),
        false)) (r, true)
    t.finish r 2

end Shell
end JuryCaptions
