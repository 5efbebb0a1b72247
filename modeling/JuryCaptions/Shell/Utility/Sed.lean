import JuryCaptions.Shell.Utility
import JuryCaptions.Shell.Regex
/-!
Editing lines: `sed`, which runs a small program over the lines of its files.
-/

namespace JuryCaptions
namespace Shell

inductive SedAddress where
  | line (n : Nat)
  | last
  | pattern (r : Regex)
  /-- `first~step`: every `step`th line from line `first` on, only line
  `first` when `step` is 0. -/
  | step (first step : Nat)
  /-- `+n` ending a range: the line `n` lines after its first. -/
  | following (n : Nat)
  /-- `~n` ending a range: the first line from its first whose number is a
  multiple of `n`. -/
  | multiple (n : Nat)
  deriving Inhabited

inductive ReplacePiece where
  | text (s : String)
  | whole
  | group (n : Nat)
  /-- `\U`, `\L`, `\u`, `\l` or `\E`, by its letter. -/
  | caseChange (c : Char)
  deriving Inhabited

inductive SedAction where
  | substitute (r : Regex) (replacement : List ReplacePiece) (global : Bool) (nth : Nat) (print : Bool)
      (file : Option String) (execute : Bool)
  | translate (pairs : List (Char × Char))
  /-- `a`, `i` or `c` with its text. -/
  | text (kind : Char) (body : String)
  /-- A command without arguments, by its letter. -/
  | simple (c : Char)
  /-- `l`, with the width of its lines; 0 for no limit. -/
  | list (width : Option Nat)
  /-- `w` with its file, or `W` writing the first line alone. -/
  | writeFile (name : String) (firstLine : Bool)
  /-- `e` with its command line, or without one to run the pattern space. -/
  | execute (command : Option String)
  /-- `r` with its file. -/
  | readFile (name : String)
  /-- `R` with its file, one line of it each time. -/
  | readLine (name : String)
  | quit (print : Bool) (code : Nat)
  /-- `b`, `t` or `T` with its label; an empty label jumps to the end. -/
  | jump (kind : Char) (label : String)
  | label (name : String)
  /-- The start of a block, with the index of the command after its end. -/
  | openBlock (after : Nat)
  | closeBlock
  deriving Inhabited

structure SedCommand where
  first : Option SedAddress := none
  second : Option SedAddress := none
  negate : Bool := false
  action : SedAction
  deriving Inhabited

/-- Why a program cannot be read: the message and the status it exits with. -/
structure SedFault where
  message : String
  status : Nat := 1

def sedError (pos : Nat) (msg : String) : SedFault :=
  { message := "-e expression #1, char " ++ toString pos ++ ": " ++ msg }

/-- The fault of an expression the matcher refuses after reading it: a bracket
set that reads like a class without its outer brackets. -/
def bracketFault : SedFault :=
  { message := "character class syntax is [[:space:]], not [:space:]", status := 4 }

def escapedByte (n : Nat) : Char :=
  if n % 256 < 128 then Char.ofNat (n % 256) else Char.ofNat (Wide.strayBase + n % 256)

def escapedChar : List Char → Option (Char × List Char)
  | 'a' :: rest => some ('\x07', rest)
  | 'f' :: rest => some ('\x0c', rest)
  | 'n' :: rest => some ('\n', rest)
  | 'r' :: rest => some ('\r', rest)
  | 't' :: rest => some ('\t', rest)
  | 'v' :: rest => some ('\x0b', rest)
  | 'c' :: x :: rest => some (Char.ofNat (x.toUpper.toNat ^^^ 64), rest)
  | 'd' :: rest => some (escapedNumber 10 3 'd' rest)
  | 'o' :: rest => some (escapedNumber 8 3 'o' rest)
  | 'x' :: rest => some (escapedNumber 16 2 'x' rest)
  | _ => none
where
  /-- Up to `width` digits of a base, read as a byte. -/
  escapedNumber (base width : Nat) (letter : Char) (cs : List Char) : Char × List Char :=
    let ds := (cs.take width).takeWhile fun c => ((Utf8.hexDigit? c).filter (· < base)).isSome
    if ds.isEmpty then (letter, cs)
    else (escapedByte (ds.foldl (fun n d => base * n + (Utf8.hexDigit? d).getD 0) 0), cs.drop ds.length)

/-- An expression with the escapes of numbers and control characters made the characters
they spell, which keep whatever meaning they have there. -/
def expandEscapes : Nat → List Char → List Char
  | 0, cs => cs
  | _ + 1, [] => []
  | f + 1, '\\' :: c :: rest =>
    if c == 'n' || c == 't' then '\\' :: c :: expandEscapes f rest
    else match escapedChar (c :: rest) with
      | some (e, more) =>
        if e == '\\' then '\\' :: '\\' :: expandEscapes f more else e :: expandEscapes f more
      | none => '\\' :: c :: expandEscapes f rest
  | f + 1, c :: rest => c :: expandEscapes f rest

def sedRegex (extended : Bool) (re : String) (pos : Nat) : Except SedFault Regex :=
  match Regex.compile { extended, controls := true } (String.ofList (expandEscapes (re.length + 1) re.toList)) with
  | .error e => .error (sedError pos e)
  | .ok r => if confusingBracket re then .error bracketFault else .ok r

/-- Reads up to an unescaped delimiter: the text, with `\` before the
delimiter removed and `\n` made a newline when `newline`, and what follows. -/
def readDelimited (delim : Char) (newline : Bool) : List Char → String → Option (String × List Char)
  | [], _ => none
  | '\\' :: c :: rest, acc =>
    if c == delim then readDelimited delim newline rest (acc.push c)
    else if c == 'n' && newline then readDelimited delim newline rest (acc.push '\n')
    else readDelimited delim newline rest ((acc.push '\\').push c)
  | c :: rest, acc =>
    if c == delim then some (acc, rest) else readDelimited delim newline rest (acc.push c)

/-- The pieces of an `s` replacement: `&` and `\0` the match, `\1`–`\9` groups,
case changes, and escaped characters as plain text. -/
def replacePieces : Nat → List Char → List ReplacePiece → List ReplacePiece
  | 0, _, acc => acc.reverse
  | _ + 1, [], acc => acc.reverse
  | f + 1, '&' :: rest, acc => replacePieces f rest (.whole :: acc)
  | f + 1, '\\' :: c :: rest, acc =>
    if c == '0' then replacePieces f rest (.whole :: acc)
    else if c.isDigit then replacePieces f rest (.group (c.toNat - '0'.toNat) :: acc)
    else if "ULulE".toList.contains c then replacePieces f rest (.caseChange c :: acc)
    else match escapedChar (c :: rest) with
      | some (e, more) => replacePieces f more (.text (String.singleton e) :: acc)
      | none => replacePieces f rest (.text (String.singleton c) :: acc)
  | f + 1, c :: rest, acc => replacePieces f rest (.text (String.singleton c) :: acc)

/-- A program of `sed` being read: the characters left and how many were read. -/
structure SedText where
  rest : List Char
  pos : Nat

namespace SedText

def skipBlanks (s : SedText) : SedText :=
  let n := (s.rest.takeWhile fun c => c == ' ' || c == '\t').length
  { rest := s.rest.drop n, pos := s.pos + n }

def advance (s : SedText) (n : Nat) : SedText := { rest := s.rest.drop n, pos := s.pos + n }

def toLineEnd (s : SedText) : String × SedText :=
  let line := s.rest.takeWhile (· != '\n')
  (String.ofList line, s.advance line.length)

end SedText

def readAddress (extended : Bool) (ending : Bool) (s : SedText) : Except SedFault (Option SedAddress × SedText) :=
  let number (cs : List Char) : Nat × Nat :=
    let ds := cs.takeWhile Char.isDigit
    (ds.foldl (fun n d => 10 * n + (d.toNat - '0'.toNat)) 0, ds.length)
  match s.rest with
  | '$' :: _ => .ok (some .last, s.advance 1)
  | '+' :: more =>
    let (n, k) := number more
    if ending && k > 0 then .ok (some (.following n), s.advance (k + 1)) else .ok (none, s)
  | '~' :: more =>
    let (n, k) := number more
    if ending && k > 0 then .ok (some (.multiple n), s.advance (k + 1)) else .ok (none, s)
  | c :: _ =>
    if c.isDigit then
      let (n, k) := number s.rest
      match s.rest.drop k with
      | '~' :: more =>
        let (step, j) := number more
        .ok (some (.step n step), s.advance (k + 1 + j))
      | _ => .ok (some (.line n), s.advance k)
    else if c == '/' || c == '\\' then
      let (delim, body) := if c == '/' then ('/', s.rest.drop 1) else (s.rest[1]?.getD '/', s.rest.drop 2)
      match readDelimited delim true body "" with
      | none => .error (sedError (s.pos + s.rest.length) "unterminated address regex")
      | some (re, after) =>
        match sedRegex extended re (s.pos + s.rest.length - after.length) with
        | .ok r =>
          let read := s.rest.length - after.length
          let after : SedText := s.advance read
          let flags := (after.rest.takeWhile fun c => c == 'I' || c == 'M')
          let r := if flags.contains 'I' then r.foldCase else r
          let r := if flags.contains 'M' then r.multiline else r
          .ok (some (.pattern r), after.advance flags.length)
        | .error e => .error e
    else .ok (none, s)
  | [] => .ok (none, s)

def endCommand (s : SedText) : Except SedFault SedText :=
  let s := s.skipBlanks
  match s.rest with
  | [] => .ok s
  | ';' :: _ => .ok (s.advance 1)
  | '\n' :: _ => .ok (s.advance 1)
  | '\x7d' :: _ => .ok s
  | '#' :: _ => .ok s
  | _ => .error (sedError (s.pos + 1) "extra characters after command")

def readSedText (s : SedText) : Option String × SedText :=
  let s := s.skipBlanks
  let rec go : List Char → String → Nat → String × Nat
    | [], acc, n => (acc, n)
    | '\n' :: _, acc, n => (acc, n)
    | ['\\'], acc, n => (acc, n + 1)
    | '\\' :: c :: rest, acc, n => go rest (acc.push c) (n + 2)
    | c :: rest, acc, n => go rest (acc.push c) (n + 1)
  let body (s : SedText) : Option String × SedText :=
    let (text, n) := go s.rest "" 0
    (some (text ++ "\n"), s.advance n)
  match s.rest with
  | [] => (none, s)
  | ['\\'] => (some "", s.advance 1)
  | '\\' :: '\n' :: _ => body (s.advance 2)
  | '\\' :: _ => body (s.advance 1)
  | _ => body s

def readLabel (s : SedText) : String × SedText :=
  let s := s.skipBlanks
  let name := s.rest.takeWhile fun c => c != ';' && c != '\n'
  ((String.ofList name).trimAsciiEnd.toString, s.advance name.length)

def readAction (extended : Bool) (letter : Char) (s : SedText) : Except SedFault (SedAction × SedText) :=
  let commandAt := s.pos
  match letter with
  | 's' =>
    match s.rest with
    | [] => .error (sedError commandAt "unterminated \x60s' command")
    | delim :: body =>
      match readDelimited delim true body "" with
      | none => .error (sedError (s.pos + s.rest.length) "unterminated \x60s' command")
      | some (re, afterRe) =>
        match readDelimited delim false afterRe "" with
        | none => .error (sedError (s.pos + s.rest.length) "unterminated \x60s' command")
        | some (repl, afterRepl) =>
          let rec flags : Nat → SedText → Bool × Nat × Bool × Bool × Bool × Bool →
              Except SedFault (Bool × Nat × Bool × Bool × Bool × Bool × Option String × SedText)
            | 0, t, (g, n, p, i, m, e) => .ok (g, n, p, i, m, e, none, t)
            | f + 1, t, (g, n, p, i, m, e) =>
              match t.rest with
              | 'w' :: _ =>
                let (name, t) := (t.advance 1).skipBlanks.toLineEnd
                if name.isEmpty then .error (sedError t.pos "missing filename in r/R/w/W commands")
                else .ok (g, n, p, i, m, e, some name, t)
              | 'g' :: _ =>
                if g then .error (sedError (t.pos + 1) "multiple \x60g' options to \x60s' command")
                else flags f (t.advance 1) (true, n, p, i, m, e)
              | 'p' :: _ =>
                if p then .error (sedError (t.pos + 1) "multiple \x60p' options to \x60s' command")
                else flags f (t.advance 1) (g, n, true, i, m, e)
              | 'i' :: _ => flags f (t.advance 1) (g, n, p, true, m, e)
              | 'I' :: _ => flags f (t.advance 1) (g, n, p, true, m, e)
              | 'm' :: _ => flags f (t.advance 1) (g, n, p, i, true, e)
              | 'M' :: _ => flags f (t.advance 1) (g, n, p, i, true, e)
              | 'e' :: _ => flags f (t.advance 1) (g, n, p, i, m, true)
              | c :: _ =>
                if c.isDigit then
                  let ds := t.rest.takeWhile Char.isDigit
                  let k := ds.foldl (fun k d => 10 * k + (d.toNat - '0'.toNat)) 0
                  if n != 0 then .error (sedError (t.pos + ds.length) "multiple number options to \x60s' command")
                  else if k == 0 then .error (sedError (t.pos + ds.length) "number option to \x60s' command may not be zero")
                  else flags f (t.advance ds.length) (g, k, p, i, m, e)
                else if c == ';' || c == '\n' || c == '\x7d' || c == ' ' || c == '\t' || c == '#' then
                  .ok (g, n, p, i, m, e, none, t)
                else .error (sedError (t.pos + 1) "unknown option to \x60s'")
              | [] => .ok (g, n, p, i, m, e, none, t)
          let afterText := s.advance (s.rest.length - afterRepl.length)
          match flags (afterRepl.length + 1) afterText (false, 0, false, false, false, false) with
          | .error e => .error e
          | .ok (g, n, p, i, m, e, file, t) =>
            let n := if n == 0 then 1 else n
            match sedRegex extended re (s.pos + s.rest.length - afterRe.length) with
            | .error e => .error e
            | .ok r =>
              let r : Regex := if i then r.foldCase else r
              let r : Regex := if m then r.multiline else r
              match endCommand t with
              | .ok t => .ok (.substitute r (replacePieces (repl.length + 1) repl.toList []) g n p file e, t)
              | .error e => .error e
  | 'y' =>
    match s.rest with
    | [] => .error (sedError commandAt "unterminated \x60y' command")
    | delim :: body =>
      match readDelimited delim true body "" with
      | none => .error (sedError (s.pos + s.rest.length) "unterminated \x60y' command")
      | some (src, afterSrc) =>
        match readDelimited delim true afterSrc "" with
        | none => .error (sedError (s.pos + s.rest.length) "unterminated \x60y' command")
        | some (dst, after) =>
          let t := s.advance (s.rest.length - after.length)
          if src.length != dst.length then
            .error (sedError t.pos "strings for \x60y' command are different lengths")
          else
            match endCommand t with
            | .ok t => .ok (.translate (src.toList.zip dst.toList), t)
            | .error e => .error e
  | 'e' =>
    match s.skipBlanks.rest with
    | [] => .ok (.execute none, s.skipBlanks)
    | '\n' :: _ => .ok (.execute none, s.skipBlanks.advance 1)
    | _ =>
      match readSedText s with
      | (some body, t) => .ok (.execute (some (body.dropEnd 1).toString), t)
      | (none, t) => .ok (.execute none, t)
  | 'a' | 'i' | 'c' =>
    match readSedText s with
    | (some body, t) => .ok (.text letter body, t)
    | (none, _) => .error (sedError commandAt "expected \\ after \x60a', \x60c' or \x60i'")
  | 'q' | 'Q' =>
    let t := s.skipBlanks
    let ds := t.rest.takeWhile Char.isDigit
    match endCommand (t.advance ds.length) with
    | .ok t' => .ok (.quit (letter == 'q') ((String.ofList ds).toNat?.getD 0), t')
    | .error e => .error e
  | 'b' | 't' | 'T' =>
    let (name, t) := readLabel s
    match endCommand t with
    | .ok t => .ok (.jump letter name, t)
    | .error e => .error e
  | ':' =>
    let (name, t) := readLabel s
    if name.isEmpty then .error (sedError commandAt "\":\" lacks a label")
    else match endCommand t with
      | .ok t => .ok (.label name, t)
      | .error e => .error e
  | 'r' | 'w' | 'R' | 'W' =>
    let (name, t) := s.skipBlanks.toLineEnd
    if name.isEmpty then .error (sedError t.pos "missing filename in r/R/w/W commands")
    else .ok (match letter with
      | 'w' => .writeFile name false
      | 'W' => .writeFile name true
      | 'r' => .readFile name
      | _ => .readLine name, t)
  | 'v' =>
    let (_, t) := readLabel s
    match endCommand t with
    | .ok t => .ok (.simple 'v', t)
    | .error e => .error e
  | 'l' =>
    let t := s.skipBlanks
    let ds := t.rest.takeWhile Char.isDigit
    match endCommand (t.advance ds.length) with
    | .ok t' => .ok (.list (if ds.isEmpty then none else some (String.ofList ds).toNat!), t')
    | .error e => .error e
  | _ =>
    if "dDpPnNgGhHxz=F".toList.contains letter then
      match endCommand s with
      | .ok t => .ok (.simple letter, t)
      | .error e => .error e
    else .error (sedError commandAt ("unknown command: \x60" ++ String.singleton letter ++ "'"))

def readSedProgram (extended : Bool) : Nat → SedText → Array SedCommand → List Nat → Except SedFault (Array SedCommand)
  | 0, _, acc, _ => .ok acc
  | f + 1, s, acc, blocks =>
    let s := s.skipBlanks
    match s.rest with
    | [] => if blocks.isEmpty then .ok acc else .error (sedError 0 "unmatched \x60\x7b'")
    | ';' :: _ => readSedProgram extended f (s.advance 1) acc blocks
    | '\n' :: _ => readSedProgram extended f (s.advance 1) acc blocks
    | '#' :: _ => readSedProgram extended f (s.toLineEnd.2) acc blocks
    | _ =>
      match readAddress extended false s with
      | .error e => .error e
      | .ok (first, s) =>
        let second : Except SedFault (Option SedAddress × SedText) :=
          match first, s.rest with
          | some _, ',' :: _ =>
            match readAddress extended true (s.advance 1).skipBlanks with
            | .ok (some a, t) => .ok (some a, t)
            | .ok (none, t) => .error (sedError (t.pos + 1) "unexpected \x60,'")
            | .error e => .error e
          | _, _ => .ok (none, s)
        match second with
        | .error e => .error e
        | .ok (second, s) =>
          let s := s.skipBlanks
          let zeroMisused : Bool := match first, second with
            | some (.line 0), some (.pattern _) => false
            | some (.line 0), _ => true
            | _, _ => false
          if zeroMisused then .error (sedError (s.pos + (if s.rest.isEmpty then 0 else 1)) "invalid usage of line address 0") else
          let (negate, s) := match s.rest with
            | '!' :: _ => (true, (s.advance 1).skipBlanks)
            | _ => (false, s)
          match s.rest with
          | [] => .error (sedError s.pos "missing command")
          | '\x7b' :: _ =>
            let cmd : SedCommand := { first := first, second := second, negate := negate, action := .openBlock 0 }
            readSedProgram extended f (s.advance 1) (acc.push cmd) (acc.size :: blocks)
          | '\x7d' :: _ =>
            match blocks with
            | [] => .error (sedError (s.pos + 1) "unexpected \x60\x7d'")
            | b :: rest =>
              if first.isSome then .error (sedError (s.pos + 1) "\x7d doesn't want any addresses")
              else
                let acc := acc.push { action := .closeBlock }
                let opened := acc[b]?.getD default
                let acc := acc.set! b { opened with action := .openBlock acc.size }
                match endCommand (s.advance 1) with
                | .ok t => readSedProgram extended f t acc rest
                | .error e => .error e
          | letter :: _ =>
            match readAction extended letter (s.advance 1) with
            | .error e => .error e
            | .ok (action, t) =>
              readSedProgram extended f t (acc.push { first := first, second := second, negate := negate, action := action }) blocks

def replacementText (line : Array Char) (s e : Nat) (caps : Captures) (pieces : List ReplacePiece) : String :=
  let slice (a b : Nat) : String := String.ofList ((line.toList.drop a).take (b - a))
  let step (st : String × Char × Char) (piece : ReplacePiece) : String × Char × Char :=
    let (acc, mode, once) := st
    let put (x : String) : String × Char × Char :=
      let cased := x.toList.map fun ch =>
        if mode == 'U' then Wide.toUpper ch else if mode == 'L' then Wide.toLower ch else ch
      match cased with
      | [] => (acc, mode, once)
      | c :: cs =>
        let c := if once == 'u' then Wide.toUpper c else if once == 'l' then Wide.toLower c else c
        (acc ++ String.ofList (c :: cs), mode, ' ')
    match piece with
    | .text x => put x
    | .whole => put (slice s e)
    | .group n =>
      match caps.find? (·.1 == n) with
      | some (_, a, b) => put (slice a b)
      | none => (acc, mode, once)
    | .caseChange c =>
      if c == 'u' || c == 'l' then (acc, mode, c)
      else if c == 'E' then (acc, ' ', ' ')
      else (acc, c, once)
  (pieces.foldl step ("", ' ', ' ')).1

def substituteLine (r : Regex) (pieces : List ReplacePiece) (global : Bool) (nth : Nat)
    (line : String) : Option String :=
  let cs := line.toList.toArray
  let rec go : Nat → Nat → Nat → Option Nat → String → Bool → String × Bool
    | 0, _, _, _, acc, done => (acc, done)
    | f + 1, pos, count, prevEnd, acc, done =>
      let rest := String.ofList (cs.toList.drop pos)
      if pos > cs.size then (acc, done)
      else
        match r.searchFrom cs pos with
        | none => (acc ++ rest, done)
        | some (s, e, caps) =>
          if s == e && prevEnd == some s then
            if s < cs.size then go f (s + 1) count prevEnd (acc ++ String.ofList ((cs.toList.drop pos).take (s + 1 - pos))) done
            else (acc ++ rest, done)
          else
            let before := String.ofList ((cs.toList.drop pos).take (s - pos))
            let chosen := count == nth || (global && count > nth)
            let piece := if chosen then replacementText cs s e caps pieces else String.ofList ((cs.toList.drop s).take (e - s))
            let acc := acc ++ before ++ piece
            if !global && chosen then (acc ++ String.ofList (cs.toList.drop e), true)
            else if s == e then
              if s < cs.size then go f (s + 1) (count + 1) (some e) (acc.push (cs[s]?.getD ' ')) (done || chosen)
              else (acc, done || chosen)
            else go f e (count + 1) (some e) acc (done || chosen)
  let (text, done) := go (2 * cs.size + 4) 0 1 none "" false
  if done then some text else none

def listText (width : Nat) (space : String) : String :=
  let shown (c : Char) : String :=
    if c == '\\' then "\\\\"
    else match controlLetter c with
      | some l => "\\" ++ String.singleton l
      | none => if c.toNat ≥ 32 && c.toNat < 127 then String.singleton c else octalEscape (c.toNat % 256)
  let (out, _) := space.toList.foldl (fun (out, column) c =>
    let piece := shown c
    if width > 0 && column + piece.length > width - 1 then (out ++ "\\\n" ++ piece, piece.length)
    else (out ++ piece, column + piece.length)) ("", 0)
  out ++ "$\n"

structure SedRun where
  lines : Array String
  /-- Whether the last input line ended with a newline. -/
  lastNewline : Bool
  /-- The index of the next line to read. -/
  next : Nat := 0
  space : String := ""
  hold : String := ""
  out : String := ""
  /-- Whether the output so far ends in a line written without its newline. -/
  missing : Bool := false
  /-- The text of `a` to write at the end of the cycle. -/
  appended : String := ""
  /-- The commands whose range is open. -/
  open_ : List Nat := []
  /-- The last lines of the open ranges that end a number of lines on, by command. -/
  ends : List (Nat × Nat) := []
  replaced : Bool := false
  quiet : Bool
  stopped : Option Nat := none
  /-- The width of the lines of \x60l\x60 when it gives none. -/
  lineWidth : Nat := 70
  /-- The texts of the files \x60r\x60 and \x60R\x60 read, by name. -/
  sources : List (String × String) := []
  /-- How many lines \x60R\x60 has taken from each of its files. -/
  taken : List (String × Nat) := []
  /-- What was written to each file of \x60w\x60, by name. -/
  written : List (String × String) := []
  /-- What a command line run by the shell writes on its output, for
  \x60e\x60. -/
  shell : String → String := fun _ => ""
  /-- The character that ends each record: a newline, or a zero byte with
  \x60-z\x60. -/
  eol : Char := '\n'
  /-- The name of the file each line came from, `-` for the standard input. -/
  fileNames : Array String := #[]

namespace SedRun

def ending (r : SedRun) : String := String.singleton r.eol

def runCommand (r : SedRun) (command : String) : String := Wide.widen (r.shell (Wide.narrow command))

def executeSpace (r : SedRun) : SedRun :=
  let out := r.runCommand r.space
  { r with space := if out.endsWith "\n" then (out.dropEnd 1).toString else out }

def lineNo (r : SedRun) : Nat := r.next

def atLast (r : SedRun) : Bool := r.next ≥ r.lines.size

def write (r : SedRun) (text : String) : SedRun :=
  { r with out := r.out ++ (if r.missing then r.ending else "") ++ text, missing := false }

def writeLine (r : SedRun) (text : String) : SedRun :=
  let bare := r.atLast && !r.lastNewline
  let out := r.out ++ (if r.missing then r.ending else "") ++ text ++ (if bare then "" else r.ending)
  { r with out, missing := bare }

def toFile (r : SedRun) (name text : String) : SedRun :=
  if name == "/dev/stdout" then r.write text
  else if r.written.any (·.1 == name) then
    { r with written := r.written.map fun (n, t) => if n == name then (n, t ++ text) else (n, t) }
  else { r with written := r.written ++ [(name, text)] }

def readLine (r : SedRun) : SedRun :=
  { r with space := r.lines[r.next]?.getD "", next := r.next + 1 }

def endCycle (r : SedRun) (print : Bool) : SedRun :=
  let r := if print && !r.quiet then r.writeLine r.space else r
  let r := if r.appended.isEmpty then r else r.write r.appended
  { r with appended := "" }

def addressHolds (r : SedRun) : SedAddress → Bool
  | .line n => r.lineNo == n
  | .last => r.atLast
  | .pattern re => re.matches r.space
  | .step first step =>
    if step == 0 then r.lineNo == first else r.lineNo ≥ first && (r.lineNo - first) % step == 0
  | .following _ | .multiple _ => false

def selects (r : SedRun) (i : Nat) (c : SedCommand) : Bool × SedRun :=
  let (picked, r) := match c.first, c.second with
    | none, _ => (true, r)
    | some a, none => (r.addressHolds a, r)
    | some a, some b =>
      if r.open_.contains i then
        let closes : Bool := match b with
          | .line n => r.lineNo ≥ n
          | .following _ | .multiple _ => ((r.ends.find? (·.1 == i)).map (decide <| ·.2 ≤ r.lineNo)).getD true
          | other => r.addressHolds other
        (true, if closes then { r with open_ := r.open_.erase i, ends := r.ends.filter (·.1 != i) } else r)
      else if r.addressHolds a then
        let last : Option Nat := match b with
          | .line n => some n
          | .following n => some (r.lineNo + n)
          | .multiple n => some (if n == 0 then r.lineNo else (r.lineNo / n + 1) * n)
          | _ => none
        match last with
        | some n =>
          if n ≤ r.lineNo then (true, r)
          else (true, { r with open_ := i :: r.open_, ends := (i, n) :: r.ends })
        | none => (true, { r with open_ := i :: r.open_ })
      else (false, r)
  (picked != c.negate, r)

end SedRun

def labelTarget (prog : Array SedCommand) (name : String) : Nat :=
  if name.isEmpty then prog.size
  else
    match (prog.toList.zipIdx).find? (fun (c, _) => match c.action with
        | .label n => n == name
        | _ => false) with
    | some (_, i) => i + 1
    | none => prog.size

/-- Runs the commands of one cycle from command `pc`; the second part says
whether the cycle ended by reading on (`true`) or by `D` restarting it. -/
def sedCycle (prog : Array SedCommand) : Nat → Nat → SedRun → SedRun × Bool
  | 0, _, r => (r.endCycle true, true)
  | f + 1, pc, r =>
    match prog[pc]? with
    | none => (r.endCycle true, true)
    | some c =>
      let (picked, r) := r.selects pc c
      if !picked then
        match c.action with
        | .openBlock after => sedCycle prog f after r
        | _ => sedCycle prog f (pc + 1) r
      else
        match c.action with
        | .openBlock _ | .closeBlock | .label _ => sedCycle prog f (pc + 1) r
        | .substitute re pieces global nth print file execute =>
          match substituteLine re pieces global nth r.space with
          | some text =>
            let r := { r with space := text, replaced := true }
            let r := if execute then r.executeSpace else r
            let r := if print then r.writeLine r.space else r
            let r := match file with
              | some name => r.toFile name (r.space ++ r.ending)
              | none => r
            sedCycle prog f (pc + 1) r
          | none => sedCycle prog f (pc + 1) r
        | .translate pairs =>
          let space := String.map (fun ch => match pairs.find? (·.1 == ch) with
            | some (_, d) => d
            | none => ch) r.space
          sedCycle prog f (pc + 1) { r with space := space }
        | .text kind body =>
          match kind with
          | 'a' => sedCycle prog f (pc + 1) { r with appended := r.appended ++ body }
          | 'i' => sedCycle prog f (pc + 1) (r.write body)
          | _ =>
            let ends := match c.second with
              | some _ => !r.open_.contains pc
              | none => true
            let r := if ends || c.negate then r.write body else r
            (r.endCycle false, true)
        | .quit print code =>
          let r := r.endCycle print
          ({ r with stopped := some code }, true)
        | .jump kind label =>
          let taken := match kind with
            | 'b' => true
            | 't' => r.replaced
            | _ => !r.replaced
          let r := if kind == 'b' then r else { r with replaced := false }
          if taken then sedCycle prog f (labelTarget prog label) r else sedCycle prog f (pc + 1) r
        | .writeFile name firstLine =>
          let text := if firstLine then (r.space.splitOn r.ending).headD "" else r.space
          sedCycle prog f (pc + 1) (r.toFile name (text ++ r.ending))
        | .execute none => sedCycle prog f (pc + 1) r.executeSpace
        | .execute (some command) =>
          let out := r.runCommand command
          sedCycle prog f (pc + 1) { r with out := r.out ++ (if r.missing then r.ending else "") ++ out, missing := false }
        | .readFile name =>
          let text := ((r.sources.find? (·.1 == name)).map (·.2)).getD ""
          sedCycle prog f (pc + 1) { r with appended := r.appended ++ text }
        | .readLine name =>
          let text := ((r.sources.find? (·.1 == name)).map (·.2)).getD ""
          let k := ((r.taken.find? (·.1 == name)).map (·.2)).getD 0
          match (recordsWithEnd r.eol text)[k]? with
          | some line =>
            let taken := (name, k + 1) :: r.taken.filter (·.1 != name)
            sedCycle prog f (pc + 1) { r with appended := r.appended ++ line, taken }
          | none => sedCycle prog f (pc + 1) r
        | .list width =>
          sedCycle prog f (pc + 1) (r.write (listText (width.getD r.lineWidth) (Wide.narrow r.space)))
        | .simple letter =>
          match letter with
          | 'd' => (r.endCycle false, true)
          | 'D' =>
            match r.space.splitOn r.ending with
            | [_] => (r.endCycle false, true)
            | _ :: rest =>
              let r := r.endCycle false
              ({ r with space := r.ending.intercalate rest }, false)
            | [] => (r.endCycle false, true)
          | 'p' => sedCycle prog f (pc + 1) (r.writeLine r.space)
          | 'P' => sedCycle prog f (pc + 1) (r.write ((r.space.splitOn r.ending).headD "" ++ r.ending))
          | 'n' =>
            if r.atLast then
              if r.quiet then (r.endCycle false, true) else (r.endCycle true, true)
            else
              let r := if r.quiet then r else r.writeLine r.space
              let r := if r.appended.isEmpty then r else { r.write r.appended with appended := "" }
              sedCycle prog f (pc + 1) r.readLine
          | 'N' =>
            if r.atLast then (r.endCycle true, true)
            else
              let r := if r.appended.isEmpty then r else { r.write r.appended with appended := "" }
              let before := r.space
              let r := r.readLine
              sedCycle prog f (pc + 1) { r with space := before ++ r.ending ++ r.space }
          | 'g' => sedCycle prog f (pc + 1) { r with space := r.hold }
          | 'G' => sedCycle prog f (pc + 1) { r with space := r.space ++ r.ending ++ r.hold }
          | 'h' => sedCycle prog f (pc + 1) { r with hold := r.space }
          | 'H' => sedCycle prog f (pc + 1) { r with hold := r.hold ++ r.ending ++ r.space }
          | 'x' => sedCycle prog f (pc + 1) { r with space := r.hold, hold := r.space }
          | 'z' => sedCycle prog f (pc + 1) { r with space := "" }
          | '=' => sedCycle prog f (pc + 1) (r.write (toString r.lineNo ++ "\n"))
          | 'F' => sedCycle prog f (pc + 1) (r.write (r.fileNames.getD (r.lineNo - 1) "-" ++ "\n"))
          | _ => sedCycle prog f (pc + 1) r

def sedCycles (prog : Array SedCommand) (steps : Nat) : Nat → SedRun → Bool → SedRun
  | 0, r, _ => r
  | f + 1, r, fresh =>
    if r.stopped.isSome then r
    else if fresh && r.next ≥ r.lines.size then r
    else
      let r := if fresh then { r.readLine with replaced := false } else r
      let (r, fresh) := sedCycle prog steps 0 r
      sedCycles prog steps f r fresh

def SedCommand.writes (c : SedCommand) : List String :=
  match c.action with
  | .substitute _ _ _ _ _ (some name) _ => [name]
  | .writeFile name _ => [name]
  | _ => []

def SedCommand.reads (c : SedCommand) : List String :=
  match c.action with
  | .readFile name => [name]
  | .readLine name => [name]
  | _ => []

structure SedSettings where
  quiet : Bool
  lineWidth : Nat
  sources : List (String × String)
  shell : String → String := fun _ => ""
  eol : Char := '\n'

def SedRun.start (prog : Array SedCommand) (settings : SedSettings) : SedRun :=
  let written := (prog.toList.flatMap SedCommand.writes).eraseDups.filterMap fun n =>
    if n == "/dev/stdout" then none else some (n, "")
  { lines := #[], lastNewline := true, quiet := settings.quiet, lineWidth := settings.lineWidth,
    sources := settings.sources, written, shell := settings.shell, eol := settings.eol }

def SedRun.stream (prog : Array SedCommand) (r : SedRun) (text : String) (names : Array String) : SedRun :=
  let (lines, lastNewline) := splitRecords r.eol text
  let fromZero := (prog.toList.zipIdx.filter fun (c, _) => match c.first with
    | some (.line 0) => true
    | _ => false).map (·.2)
  let r := { r with
    lines := lines.toArray, lastNewline, next := 0, open_ := fromZero, ends := [], taken := [], fileNames := names }
  let steps := 64 * (prog.size + 1) * (text.length + 2)
  sedCycles prog steps (2 * text.length + 4) r true

def sedUsage : String :=
  "Usage: sed [OPTION]... \x7bscript-only-if-no-other-script\x7d [input-file]...\n\n"

def sedSyntax : OptionSyntax :=
  { flags := "nErsuzb".toList, valued := ['e', 'f', 'l'], attached := ['i'],
    long := [("quiet", 'n'), ("silent", 'n'), ("expression", 'e'), ("file", 'f'), ("in-place", 'i'),
             ("regexp-extended", 'E'), ("line-length", 'l'), ("separate", 's'), ("unbuffered", 'u'),
             ("null-data", 'z'), ("posix", 'b'), ("debug", 'b'), ("sandbox", 'b')] }

def sedOptionMessage (e : OptionError) : String := e.line "sed" ++ sedUsage

def quietComment (script : String) : Bool :=
  match script.toList with
  | ['#', 'n'] => true
  | '#' :: 'n' :: '\n' :: _ => true
  | _ => false

/-- The name of the copy `-i` keeps of a file: the suffix after its name, or
with a `*` the suffix with the file's own name for each `*`. -/
def backupName (suffix name : String) : String :=
  if suffix.contains '*' then
    let base := ((name.splitOn "/").getLast?).getD name
    let dir := (name.dropEnd base.length).toString
    dir ++ (suffix.replace "*" base)
  else name ++ suffix

def sedTool (t : ToolInput) (args : List String) : ToolOutcome :=
  match sedSyntax.read args with
  | .error e => t.fail (sedOptionMessage e) 1
  | .ok o =>
    let pieces : Except String (List String) := o.given.foldlM (fun acc (c, v) =>
      if c == 'e' then .ok (acc ++ [v])
      else if c == 'f' then
        match t.source v with
        | .ok text => .ok (acc ++ [if text.endsWith "\n" then (text.dropEnd 1).toString else text])
        | .error why => .error ("sed: couldn't open file " ++ v ++ ": " ++ why ++ "\n")
      else .ok acc) []
    match pieces with
    | .error e => t.fail e 1
    | .ok scripts =>
      let given := o.has 'e' || o.has 'f'
      let (script, names) :=
        if given then ("\n".intercalate scripts, o.operands) else (o.operands.headD "", o.operands.drop 1)
      if !given && o.operands.isEmpty then t.fail sedUsage 1
      else
        let extended := o.has 'E' || o.has 'r'
        let chars := Wide.decode script
        match readSedProgram extended (chars.length + 2) { rest := chars, pos := 0 } #[] [] with
        | .error e => t.fail ("sed: " ++ Wide.narrow e.message ++ "\n") e.status
        | .ok prog =>
          let sources := (prog.toList.flatMap SedCommand.reads).filterMap fun n =>
            if n == "/dev/stdin" then some (n, Wide.widen t.input)
            else (t.read (Wide.narrow n)).toOption.map fun text => (n, Wide.widen text)
          let settings : SedSettings :=
            { quiet := o.has 'n' || quietComment script, lineWidth := ((o.last? 'l').bind String.toNat?).getD 70,
              sources, shell := t.shell, eol := if o.has 'z' then Char.ofNat 0 else '\n' }
          let start := SedRun.start prog settings
          let keep (fs : Files) (r : SedRun) : Files :=
            (r.written.filter (·.1 != "/dev/stderr")).foldl (fun fs (n, text) =>
              (fs.write (t.resolve (Wide.narrow n)) (Wide.narrow text) false).toOption.getD fs) fs
          let errors (r : SedRun) (report : Report) : Report :=
            match r.written.find? (·.1 == "/dev/stderr") with
            | some (_, text) => if text.isEmpty then report else report.note (Wide.narrow text)
            | none => report
          let status (r : SedRun) (report : Report) : Nat :=
            match r.stopped with
            | some c => if c != 0 then c else if report.failed then 2 else 0
            | none => if report.failed then 2 else 0
          match o.last? 'i' with
          | some suffix =>
            let (files, r, report) := names.foldl (fun (fs, (r : SedRun), (report : Report)) n =>
              if r.stopped.isSome then (fs, r, report)
              else match t.read n with
                | .ok text =>
                  let wide := Wide.widen text
                  let r := SedRun.stream prog { r with out := "", missing := false } wide
                    (List.replicate (splitRecords r.eol wide).1.length n).toArray
                  let fs := if suffix.isEmpty then fs
                    else (fs.write (t.resolve (backupName suffix n)) text false).toOption.getD fs
                  ((fs.write (t.resolve n) (Wide.narrow r.out) false).toOption.getD fs, r, report)
                | .error why => (fs, r, report.warn ("sed: can't read " ++ n ++ ": " ++ why ++ "\n")))
              (t.files, start, {})
            { writes := (errors r report).writes, status := status r report, files := keep files r }
          | none =>
            let names := if names.isEmpty then ["-"] else names
            let (texts, report) := names.foldl (fun (texts, (report : Report)) n =>
              match t.source n with
              | .ok more => (texts ++ [(n, Wide.widen more)], report)
              | .error why =>
                (texts, report.warn (if why == "Is a directory" then "sed: read error on " ++ n ++ ": " ++ why ++ "\n"
                  else "sed: can't read " ++ n ++ ": " ++ why ++ "\n"))) ([], {})
            let namesOf (n text : String) : List String := List.replicate (splitRecords start.eol text).1.length n
            let r := if o.has 's' then
                texts.foldl (fun r (n, text) => SedRun.stream prog r text (namesOf n text).toArray) start
              else
                let joined := texts.foldl (fun text (_, more) =>
                  if text.isEmpty || text.endsWith start.ending then text ++ more else text ++ start.ending ++ more) ""
                SedRun.stream prog start joined (texts.flatMap fun (n, text) => namesOf n text).toArray
            { writes := ((errors r report).say (Wide.narrow r.out)).writes, status := status r report,
              files := keep t.files r }

end Shell
end JuryCaptions
