import JuryCaptions.Shell.Utility
import JuryCaptions.Shell.Regex.Perl
import JuryCaptions.Text.Wide
/-!
Picking lines: `grep`, which writes the lines of its files that match one of
its patterns.
-/

namespace JuryCaptions
namespace Shell

def grepUsage : String :=
  "Usage: grep [OPTION]... PATTERNS [FILE]...\nTry 'grep --help' for more information.\n"

def Regex.literal (s : String) : Regex := .seq (s.toList.map .char)

def patternWarnings (extended : Bool) (pattern : String) : List String :=
  go (pattern.length + 1) pattern.toList true
where
  /-- Scans from a point; `start` tells whether only anchors stand between it
  and the start of its expression, group or alternative. -/
  go : Nat → List Char → Bool → List String
    | 0, _, _ => []
    | _ + 1, [], _ => []
    | f + 1, '\\' :: c :: rest, start =>
      if "\x60'<>bB".toList.contains c then go f rest start
      else if !extended && (c == '(' || c == '|') then go f rest true
      else if !extended && c == '\x7b' then
        match readInterval rest ['\\', '\x7d'] with
        | .ok (_, _, after) => go f after false
        | .error _ => go f rest false
      else if "123456789wWsS.[*^$\\()\x7b|?+".toList.contains c then go f rest false
      else
        let why :=
          if c.toNat < 32 || c.toNat ≥ 127 then "unprintable character"
          else if c == ' ' then "white space"
          else String.singleton c
        ("stray \\ before " ++ why) :: go f rest false
    | f + 1, '[' :: rest, _ =>
      match bracketBody rest with
      | some (_, after) => go f after false
      | none => []
    | f + 1, c :: rest, start =>
      if !extended then go f rest false
      else if c == '(' || c == '|' then go f rest true
      else if c == '^' || c == '$' then go f rest start
      else if start && (c == '*' || c == '+' || c == '?') then
        (String.singleton c ++ " at start of expression") :: go f rest start
      else if start && c == '\x7b' then
        match readInterval rest ['\x7d'] with
        | .ok (_, _, after) => "\x7b...\x7d at start of expression" :: go f after false
        | .error _ => go f rest false
      else go f rest false

def filesBelow (fs : Files) (dir label : String) : Nat → List (String × String)
  | 0 => []
  | f + 1 =>
    match fs.list dir with
    | .error _ => []
    | .ok entries => entries.flatMap fun (name, e) =>
      let shown := if label.isEmpty then name else if label.endsWith "/" then label ++ name else label ++ "/" ++ name
      match e with
      | .dir => filesBelow fs (Path.join [dir, name]) shown f
      | _ => [(Path.join [dir, name], shown)]

def grepSyntax : OptionSyntax :=
  { flags := "EFGPivycqnxwolLhHsbrRaIUzZT".toList ++ [longOnly 5, longOnly 6, longOnly 7],
    valued := ['e', 'f', 'm', 'A', 'B', 'C', 'd', 'D', longOnly 1, longOnly 3, longOnly 4, longOnly 8, longOnly 9,
               longOnly 10],
    optional := [longOnly 2],
    long := [("basic-regexp", 'G'), ("extended-regexp", 'E'), ("fixed-regexp", 'F'), ("fixed-strings", 'F'),
             ("perl-regexp", 'P'), ("after-context", 'A'), ("before-context", 'B'),
             ("binary-files", longOnly 1), ("byte-offset", 'b'), ("context", 'C'), ("color", longOnly 2),
             ("colour", longOnly 2), ("count", 'c'), ("devices", 'D'), ("directories", 'd'),
             ("dereference-recursive", 'R'), ("exclude", longOnly 9), ("exclude-dir", longOnly 10),
             ("file", 'f'), ("files-with-matches", 'l'), ("files-without-match", 'L'),
             ("group-separator", longOnly 4), ("include", longOnly 8), ("ignore-case", 'i'),
             ("no-ignore-case", longOnly 7), ("initial-tab", 'T'), ("label", longOnly 3),
             ("line-buffered", longOnly 6), ("line-number", 'n'), ("line-regexp", 'x'), ("max-count", 'm'),
             ("no-filename", 'h'), ("no-group-separator", longOnly 5), ("no-messages", 's'), ("null", 'Z'),
             ("null-data", 'z'), ("only-matching", 'o'), ("quiet", 'q'), ("recursive", 'r'), ("regexp", 'e'),
             ("invert-match", 'v'), ("silent", 'q'), ("text", 'a'), ("binary", 'U'), ("with-filename", 'H'),
             ("word-regexp", 'w')] }

def grepOptionMessage (e : OptionError) : String := e.line "grep" ++ grepUsage

/-- How `grep` treats a file with bytes that are not text. -/
inductive BinaryFiles where
  /-- It reports that the file matches instead of writing its lines. -/
  | binary
  /-- It takes the file as text. -/
  | text
  /-- It takes the file as matching nothing. -/
  | withoutMatch
  deriving BEq

structure GrepSettings where
  regex : Regex
  /-- Whether the first match at a place wins over the longest. -/
  firstWins : Bool := false
  invert : Bool
  word : Bool
  onlyMatching : Bool
  numbered : Bool
  offsets : Bool
  maxCount : Option Nat
  before : Nat
  after : Nat
  color : Bool := false
  groupSeparator : Option String := some "--"

/-- The matches of `r` in a line that `grep` counts, from a position on; with
`word`, only those with no word character either side. -/
def grepMatches (g : GrepSettings) (line : Array Char) : Nat → Nat → List (Nat × Nat)
  | 0, _ => []
  | f + 1, pos =>
    if pos > line.size then []
    else
      match (if g.firstWins then g.regex.searchFirst line pos else g.regex.searchFrom line pos) with
      | none => []
      | some (s, e, _) =>
        let bounded := !g.word ||
          ((s == 0 || !isWordChar (line.getD (s - 1) ' ')) && !isWordChar (line.getD e ' '))
        if bounded then
          (if e > s || !g.word then [(s, e)] else []) ++ grepMatches g line f (if e > s then e else s + 1)
        else grepMatches g line f (s + 1)

def colored (code text : String) : String :=
  "\x1b[" ++ code ++ "m\x1b[K" ++ text ++ "\x1b[m\x1b[K"

/-- A line of a file as `grep` sees it: its decoded characters and its bytes. -/
structure GrepLine where
  chars : Array Char
  text : String
  /-- Where the line starts in its file, in bytes. -/
  offset : Nat
  deriving Inhabited

def GrepSettings.pick (g : GrepSettings) (lines : List GrepLine) : List Nat × List (List (Nat × Nat)) :=
  let found := lines.map fun l => grepMatches g l.chars (l.chars.size + 2) 0
  let picked := (found.zipIdx.filter fun (m, _) => m.isEmpty == g.invert).map (·.2)
  (match g.maxCount with
    | some m => picked.take m
    | none => picked, found)

def GrepSettings.shown (g : GrepSettings) (count : Nat) (picked : List Nat) : List (Nat × Bool) :=
  (List.range count).filterMap fun i =>
    if picked.contains i then some (i, true)
    else if picked.any (fun p => (i < p && p ≤ i + g.before) || (p < i && i ≤ p + g.after)) then some (i, false)
    else none

def GrepLine.slice (l : GrepLine) (a b : Nat) : String := Wide.encode ((l.chars.extract a b).toList)

def GrepSettings.body (g : GrepSettings) (l : GrepLine) (spans : List (Nat × Nat)) (picked : Bool) : String :=
  if !g.color || !picked || g.invert then l.text
  else
    let (out, last) := spans.foldl (fun (out, last) (s, e) =>
      if e == s then (out, last)
      else (out ++ l.slice last s ++ colored "01;31" (l.slice s e), e)) ("", 0)
    out ++ l.slice last l.chars.size

def grepLines (eol : Char) (zapNulls : Bool) (text : String) : List GrepLine :=
  let records := recordsOf eol text
  let pieces := if zapNulls then records.flatMap fun r => r.splitOn (String.singleton (Char.ofNat 0)) else records
  (pieces.foldl (fun (acc : List GrepLine × Nat) r =>
    ({ chars := (Wide.decode r).toArray, text := r, offset := acc.2 } :: acc.1, acc.2 + r.length + 1)) ([], 0)).1.reverse

def hasNulls (eol : Char) (text : String) : Bool := eol != Char.ofNat 0 && text.contains (Char.ofNat 0)

def GrepLine.badlyEncoded (l : GrepLine) : Bool := l.chars.any Wide.isStray

def grepTool (t : ToolInput) (args : List String) : ToolOutcome :=
  let args := args.map fun a => if a.length > 1 && a.startsWith "-" && (a.drop 1).all Char.isDigit then "-C" ++ (a.drop 1).toString else a
  match grepSyntax.read args with
  | .error e => t.fail (grepOptionMessage e) 2
  | .ok o =>
    let fromFiles : Except String (List String) := (o.all 'f').foldlM (fun acc n =>
      match t.source n with
      | .ok text => .ok (acc ++ (splitLines text).1)
      | .error why => .error ("grep: " ++ n ++ ": " ++ why ++ "\n")) []
    let number (c : Char) : Except String (Option Nat) := match o.last? c with
      | none => .ok none
      | some v => match v.toNat? with
        | some n => .ok (some n)
        | none => .error ("grep: " ++ v ++ ": invalid context length argument\n")
    let binaryFiles : Except String BinaryFiles :=
      o.given.foldlM (fun (b : BinaryFiles) (c, v) =>
        if c == 'a' then .ok .text
        else if c == 'I' then .ok .withoutMatch
        else if c == longOnly 1 then
          match v with
          | "binary" => .ok .binary
          | "text" => .ok .text
          | "without-match" => .ok .withoutMatch
          | _ => .error "grep: unknown binary-files type\n"
        else .ok b) BinaryFiles.binary
    let color : Except String Bool := match o.last? (longOnly 2) with
      | none | some "" | some "never" | some "no" | some "none" | some "auto" | some "tty" | some "if-tty" => .ok false
      | some "always" | some "yes" | some "force" => .ok true
      | some v => .error ("grep: invalid argument " ++ quoteText v ++ " for " ++ quoteText "--color" ++ "\n" ++
          "Valid arguments are:\n  - " ++ quoteText "always" ++ ", " ++ quoteText "yes" ++ ", " ++
          quoteText "force" ++ "\n  - " ++ quoteText "never" ++ ", " ++ quoteText "no" ++ ", " ++
          quoteText "none" ++ "\n  - " ++ quoteText "auto" ++ ", " ++ quoteText "tty" ++ ", " ++
          quoteText "if-tty" ++ "\n" ++ grepUsage)
    let settings : Except String (List String × List String × Option Nat × Nat × Nat × BinaryFiles × Bool) := do
      let listed ← fromFiles
      let given := o.all 'e' ++ listed
      let (patterns, names) :=
        if o.has 'e' || o.has 'f' then (given, o.operands) else (o.operands.take 1, o.operands.drop 1)
      let maxCount ← match o.last? 'm' with
        | none => pure none
        | some v => match v.toInt? with
          | some n => pure (if n < 0 then none else some n.toNat)
          | none => throw "grep: invalid max count\n"
      let context ← number 'C'
      let after ← number 'A'
      let before ← number 'B'
      let treatment ← binaryFiles
      let color ← color
      return (patterns, names, maxCount, (before.orElse fun _ => context).getD 0,
        (after.orElse fun _ => context).getD 0, treatment, color)
    match settings with
    | .error e => t.fail e 2
    | .ok (patterns, names, maxCount, before, after, binaryFiles, color) =>
      if patterns.isEmpty && !(o.has 'e' || o.has 'f') then t.fail grepUsage 2
      else
        let mode := o.given.foldl (fun m (c, _) => if "EFGP".toList.contains c then c else m) 'G'
        let foldCase := o.given.foldl (fun f (c, _) =>
          if c == 'i' || c == 'y' then true else if c == longOnly 7 then false else f) false
        let each := (patterns.flatMap (·.splitOn "\n")).map fun p => String.ofList (Wide.decode p)
        let dialect : Dialect := { extended := mode != 'G', lenient := true }
        let compiled := if mode == 'P' && each.length > 1 then .error "the -P option only supports a single pattern"
          else each.mapM fun p =>
            if mode == 'F' then .ok (Regex.literal p)
            else if mode == 'P' then Regex.compilePerl p
            else Regex.compile dialect p
        let checked := (mode == 'E' || mode == 'G') && each.any confusingBracket
        match compiled with
        | .error e => t.fail ("grep: " ++ e ++ "\n") 2
        | .ok rs =>
          if checked then t.fail "grep: character class syntax is [[:space:]], not [:space:]\n" 2 else
          let warnings := if mode == 'E' || mode == 'G' then each.flatMap (patternWarnings (mode == 'E')) else []
          let r : Regex := match rs with
            | [one] => one
            | [] => .set {}
            | _ => .alt rs
          let r : Regex := if mode == 'P' && o.has 'w' then r.perlWord else r
          let r : Regex := if foldCase then r.foldCase else r
          let r : Regex := if o.has 'x' then .seq [.lineStart, r, .lineEnd] else r
          let g : GrepSettings :=
            { regex := r, firstWins := mode == 'P', invert := o.has 'v', word := o.has 'w' && mode != 'P',
              onlyMatching := o.has 'o', numbered := o.has 'n', offsets := o.has 'b', maxCount, before, after,
              color,
              groupSeparator := o.given.foldl (fun sep (c, v) =>
                if c == longOnly 4 then some v else if c == longOnly 5 then none else sep) (some "--") }
          let eol := if o.has 'z' then Char.ofNat 0 else '\n'
          let ending := String.singleton eol
          let recursive := o.has 'r' || o.has 'R'
          let isDir (n : String) : Bool := n != "-" && match t.files.lookup (t.resolve n) with
            | .ok .dir => true
            | _ => false
          let stdinName := (o.last? (longOnly 3)).getD "(standard input)"
          let targets : List (String × String) :=
            if recursive && names.isEmpty then filesBelow t.files t.cwd "" (t.files.entries.length + 1)
            else (if names.isEmpty then ["-"] else names).flatMap fun n =>
              if recursive && isDir n then filesBelow t.files (t.resolve n) n (t.files.entries.length + 1)
              else [(n, if n == "-" then stdinName else n)]
          let prefixed := match (o.given.filter fun (c, _) => c == 'H' || c == 'h').getLast? with
            | some ('H', _) => true
            | some _ => false
            | none => names.length > 1 || (recursive && (names.isEmpty || names.any isDir))
          let quiet := o.has 'q'
          let listing := o.has 'l' || o.has 'L' || o.has 'c'
          let nameEnd := if o.has 'Z' then String.singleton (Char.ofNat 0) else ""
          let start : Report := warnings.foldl (fun r w => r.note ("grep: warning: " ++ w ++ "\n")) {}
          let (r, picked, bad, _) := targets.foldl (fun ((r : Report), picked, bad, wroteGroup) (n, shown) =>
            if quiet && picked then (r, picked, bad, wroteGroup) else
            match t.source n with
            | .error why =>
              ((if o.has 's' then r else r.note ("grep: " ++ shown ++ ": " ++ why ++ "\n")), picked, true, wroteGroup)
            | .ok text =>
              let binaryFile := binaryFiles != .text && hasNulls eol text
              if binaryFile && binaryFiles == .withoutMatch then
                (r.say (if o.has 'L' then shown ++ nameEnd ++ (if o.has 'Z' then "" else "\n") else ""),
                  picked, bad, wroteGroup)
              else
              let lines := grepLines eol binaryFile text
              let (chosen, found) := g.pick lines
              let k := chosen.length
              let sepText (sep : String) : String := if g.color then colored "36" sep else sep
              let lead (sep : String) (i : Nat) (offset : Nat) : String :=
                (if prefixed then (if g.color then colored "35" shown else shown) ++
                  (if o.has 'Z' then nameEnd else sepText sep) else "") ++
                  (if g.numbered then (if g.color then colored "32" (toString (i + 1)) else toString (i + 1)) ++
                    sepText sep else "") ++
                  (if g.offsets then (if g.color then colored "32" (toString offset) else toString offset) ++
                    sepText sep else "")
              let rows := if g.onlyMatching then chosen.map (·, true) else g.shown lines.length chosen
              let rows := if binaryFile && binaryFiles == .binary then [] else rows
              let badRow := if binaryFiles == .text then none
                else rows.findIdx? fun (i, _) => (lines.getD i default).badlyEncoded
              let rows := match badRow with
                | some j => rows.take j
                | none => rows
              let becameBinary := (binaryFile && binaryFiles == .binary && k > 0) || badRow.isSome
              let (body, wroteGroup) :=
                if quiet || listing then ("", wroteGroup)
                else if g.onlyMatching then
                  (String.join (rows.map fun (i, _) =>
                    if g.invert then ""
                    else
                      let line := lines.getD i default
                      String.join (((found.getD i []).filter fun (s, e) => e > s).map fun (s, e) =>
                        lead ":" i (line.offset + (line.slice 0 s).length) ++
                          (if g.color then colored "01;31" (line.slice s e) else line.slice s e) ++ ending)),
                   wroteGroup)
                else
                  let context := g.before > 0 || g.after > 0
                  let (text, _, wrote) := rows.foldl (fun (text, (prev : Option Nat), wrote) (i, isPicked) =>
                    let gap := context && wrote && (match prev with
                      | some p => p + 1 != i
                      | none => true)
                    let line := lines.getD i default
                    let separator := match g.groupSeparator with
                      | some sep => sepText sep ++ "\n"
                      | none => ""
                    (text ++ (if gap then separator else "") ++ lead (if isPicked then ":" else "-") i line.offset ++
                      g.body line (found.getD i []) isPicked ++ ending, some i, true)) ("", none, wroteGroup)
                  (text, wrote)
              let written :=
                if quiet then ""
                else if o.has 'l' then (if k > 0 then shown ++ (if o.has 'Z' then nameEnd else "\n") else "")
                else if o.has 'L' then (if k == 0 then shown ++ (if o.has 'Z' then nameEnd else "\n") else "")
                else if o.has 'c' then (if prefixed then shown ++ (if o.has 'Z' then nameEnd else ":") else "") ++
                  toString k ++ "\n"
                else body
              let r := r.say written
              let r := if becameBinary && !quiet && !listing then r.note ("grep: " ++ shown ++ ": binary file matches\n")
                else r
              (r, picked || k > 0, bad, wroteGroup)) (start, false, false, false)
          let status := if quiet && picked then 0 else if bad then 2 else if picked then 0 else 1
          { writes := r.writes, status, files := t.files }

end Shell
end JuryCaptions
