import JuryCaptions.Shell.Syntax
/-!
Cutting a shell script into tokens.

Blanks separate words and newlines end commands.
-/

namespace JuryCaptions
namespace Shell

def isNameStart (c : Char) : Bool := c.isAlpha || c == '_'

def isNameChar (c : Char) : Bool := c.isAlphanum || c == '_'

def isName (s : String) : Bool :=
  match s.toList with
  | c :: cs => isNameStart c && cs.all isNameChar
  | [] => false

def specialParams : List Char := "#@*?$!-".toList

def skipDouble : List Char → List Char → Option (List Char × List Char)
  | [], _ => none
  | '"' :: rest, acc => some (acc.reverse, rest)
  | '\\' :: c :: rest, acc => skipDouble rest (c :: '\\' :: acc)
  | c :: rest, acc => skipDouble rest (c :: acc)

/-- Reads to the `)` that closes a command substitution, skipping quoted text
and nested parentheses: the script and what follows the `)`. -/
def scanParens : Nat → List Char → Nat → List Char → Option (List Char × List Char)
  | 0, _, _, _ => none
  | _ + 1, [], _, _ => none
  | f + 1, c :: rest, depth, acc =>
    match c with
    | ')' => if depth = 0 then some (acc.reverse, rest) else scanParens f rest (depth - 1) (c :: acc)
    | '(' => scanParens f rest (depth + 1) (c :: acc)
    | '\\' =>
      match rest with
      | d :: more => scanParens f more depth (d :: c :: acc)
      | [] => none
    | '\'' =>
      let inside := rest.takeWhile (· ≠ '\'')
      match rest.drop inside.length with
      | q :: more => scanParens f more depth (q :: inside.reverse ++ c :: acc)
      | [] => none
    | '"' =>
      match skipDouble rest [] with
      | some (inside, more) => scanParens f more depth ('"' :: inside.reverse ++ c :: acc)
      | none => none
    | _ => scanParens f rest depth (c :: acc)

def scanArith : Nat → List Char → Nat → List Char → Option (List Char × List Char)
  | 0, _, _, _ => none
  | _ + 1, [], _, _ => none
  | f + 1, c :: rest, depth, acc =>
    match c with
    | '(' => scanArith f rest (depth + 1) (c :: acc)
    | ')' =>
      if depth > 0 then scanArith f rest (depth - 1) (c :: acc)
      else match rest with
        | ')' :: more => some (acc.reverse, more)
        | _ => none
    | _ => scanArith f rest depth (c :: acc)

/-- Reads to the `}` that closes a braced parameter, skipping quoted text and
nested braced parameters: the inside and what follows the `}`. -/
def scanBrace : Nat → List Char → Nat → List Char → Option (List Char × List Char)
  | 0, _, _, _ => none
  | _ + 1, [], _, _ => none
  | f + 1, c :: rest, depth, acc =>
    match c with
    | '}' => if depth = 0 then some (acc.reverse, rest) else scanBrace f rest (depth - 1) (c :: acc)
    | '$' =>
      match rest with
      | '{' :: more => scanBrace f more (depth + 1) ('{' :: c :: acc)
      | _ => scanBrace f rest depth (c :: acc)
    | '\\' =>
      match rest with
      | d :: more => scanBrace f more depth (d :: c :: acc)
      | [] => none
    | '\'' =>
      let inside := rest.takeWhile (· ≠ '\'')
      match rest.drop inside.length with
      | q :: more => scanBrace f more depth (q :: inside.reverse ++ c :: acc)
      | [] => none
    | '"' =>
      match skipDouble rest [] with
      | some (inside, more) => scanBrace f more depth ('"' :: inside.reverse ++ c :: acc)
      | none => none
    | _ => scanBrace f rest depth (c :: acc)

def braceName (cs : List Char) : Option (String × List Char) :=
  match cs with
  | c :: rest =>
    if c.isDigit then
      let ds := cs.takeWhile Char.isDigit
      some (String.ofList ds, cs.drop ds.length)
    else if specialParams.contains c then some (String.singleton c, rest)
    else if isNameStart c then
      let name := cs.takeWhile isNameChar
      some (String.ofList name, cs.drop name.length)
    else none
  | [] => none

def paramOps : List String := [":-", ":=", ":?", ":+", "##", "%%", "-", "=", "?", "+", "#", "%"]

def bracePart (inside : List Char) (quoted : Bool) : Except String WordPart :=
  let bad : Except String WordPart := .ok .badSubstitution
  match inside with
  | '#' :: rest@(_ :: _) =>
    match braceName rest with
    | some (name, []) => .ok (.length name quoted)
    | _ =>
      match paramOps.find? (fun op => (rest.take op.length) == op.toList) with
      | some op => .ok (.paramOp "#" op (String.ofList (rest.drop op.length)) quoted)
      | none => bad
  | _ =>
    match braceName inside with
    | none => bad
    | some (name, []) => .ok (.param name quoted)
    | some (name, rest) =>
      match paramOps.find? (fun op => (rest.take op.length) == op.toList) with
      | some op => .ok (.paramOp name op (String.ofList (rest.drop op.length)) quoted)
      | none => bad

def readDollar (cs : List Char) (quoted : Bool) : Except String (Option (WordPart × List Char)) :=
  match cs with
  | '(' :: '(' :: rest =>
    match scanArith (rest.length + 1) rest 0 [] with
    | some (expr, after) => .ok (some (.arith (String.ofList expr) quoted, after))
    | none => .error "Syntax error: Missing '))'"
  | '(' :: rest =>
    match scanParens (rest.length + 1) rest 0 [] with
    | some (script, after) => .ok (some (.command (String.ofList script) quoted, after))
    | none => .error "Syntax error: Missing ')'"
  | '{' :: rest =>
    match scanBrace (rest.length + 1) rest 0 [] with
    | some (inside, after) => (bracePart inside quoted).map fun p => some (p, after)
    | none => .error "Syntax error: Missing '\x7d'"
  | c :: rest =>
    if c.isDigit || specialParams.contains c then .ok (some (.param (String.singleton c) quoted, rest))
    else if isNameStart c then
      let name := cs.takeWhile isNameChar
      .ok (some (.param (String.ofList name) quoted, cs.drop name.length))
    else .ok none
  | [] => .ok none

/-- Reads a backquoted command after its opening backquote: the script, with
the backslashes that only escape taken out, and what follows. -/
def readBackquote : List Char → Bool → List Char → Except String (String × List Char)
  | [], _, _ => .error "Syntax error: EOF in backquote substitution"
  | '\x60' :: rest, _, acc => .ok (String.ofList acc.reverse, rest)
  | '\\' :: '\n' :: rest, quoted, acc => readBackquote rest quoted acc
  | '\\' :: c :: rest, quoted, acc =>
    if c = '$' ∨ c = '\x60' ∨ c = '\\' ∨ (quoted ∧ c = '"') then readBackquote rest quoted (c :: acc)
    else readBackquote rest quoted (c :: '\\' :: acc)
  | c :: rest, quoted, acc => readBackquote rest quoted (c :: acc)

def pushText (parts : List WordPart) (s : String) (quoted : Bool) : List WordPart :=
  match parts with
  | .text t q :: rest => if q == quoted then .text (t ++ s) q :: rest else .text s quoted :: parts
  | _ => .text s quoted :: parts

/-- Where text being read stands, which decides what ends it and how quotes and
backslashes read. -/
inductive Mode where
  /-- A word of a command: a blank, a newline or an operator ends it. -/
  | plain
  /-- Inside double quotes: `"` ends it. -/
  | double
  /-- A here-document: everything is read. -/
  | here
  /-- The word of an operation outside double quotes: everything is read. -/
  | inner
  /-- The word of an operation inside double quotes: everything is read,
  double quotes are dropped, and a backslash quotes a closing brace. -/
  | quotedInner
  deriving BEq, Inhabited

def isOperatorChar (c : Char) : Bool := ";&|()<>".toList.contains c

def readParts : Nat → Mode → List Char → List WordPart → Except String (List WordPart × List Char)
  | 0, _, _, _ => .error "script too long"
  | _ + 1, mode, [], parts =>
    if mode == .double then .error "Syntax error: Unterminated quoted string" else .ok (parts, [])
  | f + 1, mode, c :: rest, parts =>
    let quoted := mode == .double || mode == .here || mode == .quotedInner
    if mode == .double && c = '"' then .ok (parts, rest)
    else if mode == .plain && (c = ' ' || c = '\t' || c = '\n' || isOperatorChar c) then .ok (parts, c :: rest)
    else
      match c with
      | '\\' =>
        match rest with
        | '\n' :: more => readParts f mode more parts
        | d :: more =>
          if mode == .plain || mode == .inner then readParts f mode more (pushText parts (String.singleton d) true)
          else if d = '$' ∨ d = '\x60' ∨ d = '\\' ∨ (mode != .here ∧ d = '"') ∨ (mode == .quotedInner ∧ d = '\x7d') then
            readParts f mode more (pushText parts (String.singleton d) true)
          else readParts f mode more (pushText parts (String.ofList ['\\', d]) quoted)
        | [] => .ok (pushText parts "\\" quoted, [])
      | '\'' =>
        if quoted then readParts f mode rest (pushText parts "'" true)
        else
          let inside := rest.takeWhile (· ≠ '\'')
          match rest.drop inside.length with
          | _ :: after => readParts f mode after (pushText parts (String.ofList inside) true)
          | [] => .error "Syntax error: Unterminated quoted string"
      | '"' =>
        if mode == .quotedInner then readParts f mode rest parts
        else if quoted then readParts f mode rest (pushText parts "\"" true)
        else
          match readParts f .double rest (pushText parts "" true) with
          | .ok (inner, after) => readParts f mode after inner
          | .error e => .error e
      | '$' =>
        match readDollar rest quoted with
        | .ok (some (p, after)) => readParts f mode after (p :: parts)
        | .ok none => readParts f mode rest (pushText parts "$" quoted)
        | .error e => .error e
      | '\x60' =>
        match readBackquote rest (mode == .double) [] with
        | .ok (script, after) => readParts f mode after (.command script quoted :: parts)
        | .error e => .error e
      | _ => readParts f mode rest (pushText parts (String.singleton c) quoted)

def wordOf (mode : Mode) (s : String) : Except String Word :=
  (readParts (s.length + 1) mode s.toList []).map fun (parts, _) => parts.reverse

def pairOperators : List String := ["&&", "||", ";;", ">>", ">&", "<&", ">|", "<>"]

def delimiterOf (w : Word) : String × Bool :=
  (String.join (w.map fun
      | .text s _ => s
      | .param n _ => "$" ++ n
      | _ => ""),
    w.any fun
      | .text _ q => q
      | _ => false)

/-- Takes the lines of a here-document from `cs` up to its delimiter line: the
text, the lines taken and what follows the delimiter line. -/
def hereBody (delim : String) (strip : Bool) : List Char → List String → String × Nat × List Char
  | [], acc => (String.join (acc.reverse.map (· ++ "\n")), acc.length, [])
  | c :: cs, acc =>
    let line := (c :: cs).takeWhile (· ≠ '\n')
    let after := (c :: cs).drop (line.length + 1)
    let line := if strip then line.dropWhile (· = '\t') else line
    if String.ofList line == delim then (String.join (acc.reverse.map (· ++ "\n")), acc.length + 1, after)
    else hereBody delim strip after (String.ofList line :: acc)
termination_by cs => cs.length
decreasing_by simp only [List.length_drop, List.length_cons]; omega

def finishWord (cur : Option (List WordPart)) (beforeRedirect : Bool) (line : Nat)
    (toks : List Token) : List Token :=
  match cur with
  | none => toks
  | some parts =>
    let w := parts.reverse
    match plainText? w with
    | some s =>
      if beforeRedirect && !s.isEmpty && s.all Char.isDigit then .ioNumber (s.toNat?.getD 0) :: toks
      else .word w line :: toks
    | none => .word w line :: toks

def newlinesRead (cs rest : List Char) : Nat := ((cs.take (cs.length - rest.length)).filter (· == '\n')).length

/-- The tokens of a script with the line of each, the line at its end, and the
failure that stopped the cutting, with its line, if any. -/
structure Lexed where
  tokens : List (Token × Nat)
  endLine : Nat
  failure : Option (Nat × String)
  deriving Inhabited

/-- Reads tokens with their lines, last first: the line number, the here-document
lines to count at the next newline, and the tokens so far. -/
def lexGo : Nat → List Char → Nat → Nat → List (Token × Nat) → Lexed
  | 0, cs, line, _, toks => ⟨toks.reverse, line, some (line + newlinesRead cs [], "Syntax error: script too long")⟩
  | _ + 1, [], line, _, toks => ⟨toks.reverse, line, none⟩
  | f + 1, '\n' :: rest, line, skip, toks => lexGo f rest (line + 1 + skip) 0 ((.newline, line + 1 + skip) :: toks)
  | f + 1, ' ' :: rest, line, skip, toks => lexGo f rest line skip toks
  | f + 1, '\t' :: rest, line, skip, toks => lexGo f rest line skip toks
  | f + 1, '\\' :: '\n' :: rest, line, skip, toks => lexGo f rest (line + 1) skip toks
  | f + 1, '#' :: rest, line, skip, toks => lexGo f (rest.dropWhile (· ≠ '\n')) line skip toks
  | f + 1, cs@('<' :: '<' :: rest), line, skip, toks =>
    let fail (e : String) : Lexed := ⟨toks.reverse, line, some (line + newlinesRead cs [], e)⟩
    let (strip, rest) := match rest with
      | '-' :: more => (true, more)
      | _ => (false, rest)
    let opTok := Token.op (if strip then "<<-" else "<<")
    let rest := rest.dropWhile fun c => c = ' ' || c = '\t'
    match readParts (rest.length + 1) .plain rest [] with
    | .error e => fail e
    | .ok ([], _) => lexGo f rest line skip ((opTok, line) :: toks)
    | .ok (parts, after) =>
      let (delim, quotedDelim) := delimiterOf parts.reverse
      let lineEnd := after.takeWhile (· ≠ '\n')
      let (body, taken, more) := hereBody delim strip (after.drop (lineEnd.length + 1)) []
      let bodyWord : Except String Word :=
        if quotedDelim then .ok [.text body true] else wordOf .here body
      match bodyWord with
      | .error e => fail e
      | .ok w =>
        let rest := if after.length > lineEnd.length then lineEnd ++ '\n' :: more else lineEnd
        lexGo f rest line (skip + taken) ((.word w line, line) :: (opTok, line) :: toks)
  | f + 1, c :: rest, line, skip, toks =>
    if isOperatorChar c then
      match rest with
      | d :: after =>
        let pair := String.ofList [c, d]
        if pairOperators.contains pair then lexGo f after line skip ((.op pair, line) :: toks)
        else lexGo f rest line skip ((.op (String.singleton c), line) :: toks)
      | [] => lexGo f rest line skip ((.op (String.singleton c), line) :: toks)
    else
      match readParts (c :: rest).length.succ .plain (c :: rest) [] with
      | .error e =>
        let errorLine := if e.startsWith "Syntax error: Unterminated" || e.startsWith "Syntax error: EOF"
          then line + newlinesRead (c :: rest) [] else line
        ⟨toks.reverse, line, some (errorLine, e)⟩
      | .ok (parts, after) =>
        let beforeRedirect := match after with
          | d :: _ => d = '<' || d = '>'
          | [] => false
        let toks := (finishWord (some parts) beforeRedirect line []).map (·, line) ++ toks
        lexGo f after (line + newlinesRead (c :: rest) after) skip toks

def lex (script : String) : Lexed :=
  lexGo (2 * script.length + 2) script.toList 1 0 []

end Shell
end JuryCaptions
