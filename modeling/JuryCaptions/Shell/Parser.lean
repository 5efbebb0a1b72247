import JuryCaptions.Shell.Lexer
/-!
Reading commands from a script's tokens: `&&`/`||` lists of pipelines, ended by
`;`, `&` (in the background) or a newline.
-/

namespace JuryCaptions
namespace Shell

/-- A syntax error: its message and how many tokens were left where it was met. -/
structure ParseError where
  remaining : Nat
  message : String
  deriving Repr, Inhabited

def closingWords : List String := ["\x7d", "fi", "then", "do", "done", "esac", "elif", "else"]

def keywords : List String :=
  ["!", "case", "do", "done", "elif", "else", "esac", "fi", "for", "if", "in", "then", "until", "while",
   "\x7b", "\x7d"]

def Token.isWord (t : Token) (s : String) : Bool :=
  match t with
  | .word w _ => plainText? w == some s
  | _ => false

def Token.closesList (t : Token) : Bool :=
  match t with
  | .word w _ => match plainText? w with
    | some s => closingWords.contains s
    | none => false
  | .op s => s == ";;" || s == ")"
  | _ => false

def redirectOperator? (s : String) : Option (RedirectKind × Nat) :=
  match s with
  | ">" => some (.write, 1)
  | ">|" => some (.overwrite, 1)
  | ">>" => some (.append, 1)
  | "<" => some (.read, 0)
  | "<>" => some (.readWrite, 0)
  | ">&" => some (.copy, 1)
  | "<&" => some (.copy, 0)
  | "<<" => some (.here, 0)
  | "<<-" => some (.here, 0)
  | _ => none

def Token.describe : Token → String
  | .word w _ =>
    match plainText? w with
    | some s => if keywords.contains s then "\"" ++ s ++ "\"" else "word"
    | none => "word"
  | .op s => if (redirectOperator? s).isSome then "redirection" else "\"" ++ s ++ "\""
  | .ioNumber _ => "redirection"
  | .newline => "newline"

def unexpectedExpecting (ts : List Token) (expected : Option String) : ParseError :=
  let met := match ts with
    | [] => "end of file"
    | t :: _ => t.describe
  ⟨ts.length, "Syntax error: " ++ met ++ " unexpected" ++
    match expected with
    | some e => " (expecting \"" ++ e ++ "\")"
    | none => ""⟩

def unexpected (ts : List Token) : ParseError := unexpectedExpecting ts none

def tooLong : ParseError := ⟨0, "Syntax error: script too long"⟩

def skipNewlines : List Token → List Token
  | .newline :: rest => skipNewlines rest
  | ts => ts

def expectWord (s : String) : List Token → Except ParseError (List Token)
  | t :: rest => if t.isWord s then .ok rest else .error (unexpectedExpecting (t :: rest) (some s))
  | [] => .error (unexpectedExpecting [] (some s))

def assignment? (w : Word) : Option (String × Word) :=
  match w with
  | .text s false :: rest =>
    let name := s.toList.takeWhile (· ≠ '=')
    if name.length < s.length && isName (String.ofList name) then
      let after := String.ofList (s.toList.drop (name.length + 1))
      some (String.ofList name, (if after.isEmpty then [] else [.text after false]) ++ rest)
    else none
  | _ => none

def readRedirects : Nat → List Token → List Redirect → Except ParseError (List Redirect × List Token)
  | 0, _, _ => .error tooLong
  | f + 1, ts@(.ioNumber n :: .op o :: rest), acc =>
    match redirectOperator? o, rest with
    | some (k, _), .word w _ :: more => readRedirects f more (acc ++ [⟨n, k, w⟩])
    | some _, _ => .error (unexpected rest)
    | none, _ => .error (unexpected ts.tail)
  | f + 1, ts@(.op o :: rest), acc =>
    match redirectOperator? o, rest with
    | some (k, d), .word w _ :: more => readRedirects f more (acc ++ [⟨d, k, w⟩])
    | some _, _ => .error (unexpected rest)
    | none, _ => .ok (acc, ts)
  | _ + 1, ts, acc => .ok (acc, ts)

def readSimple : Nat → List Token → List (String × Word) → List Word → List Redirect → Nat →
    Except ParseError (Command × List Token)
  | 0, _, _, _, _, _ => .error tooLong
  | f + 1, ts@(.ioNumber n :: .op o :: rest), as, ws, rs, line =>
    match redirectOperator? o, rest with
    | some (k, _), .word w _ :: more => readSimple f more as ws (rs ++ [⟨n, k, w⟩]) line
    | some _, _ => .error (unexpected rest)
    | none, _ => .error (unexpected ts.tail)
  | f + 1, ts@(.op o :: rest), as, ws, rs, line =>
    match redirectOperator? o, rest with
    | some (k, d), .word w l :: more => readSimple f more as ws (rs ++ [⟨d, k, w⟩]) (if line = 0 then l else line)
    | some _, _ => .error (unexpected rest)
    | none, _ =>
      if as.isEmpty && ws.isEmpty && rs.isEmpty then .error (unexpected ts)
      else .ok (.simple as ws rs line, ts)
  | f + 1, .word w l :: rest, as, ws, rs, line =>
    let line := if line = 0 then l else line
    match (if ws.isEmpty then assignment? w else none) with
    | some a => readSimple f rest (as ++ [a]) ws rs line
    | none => readSimple f rest as (ws ++ [w]) rs line
  | _ + 1, ts, as, ws, rs, line =>
    if as.isEmpty && ws.isEmpty && rs.isEmpty then .error (unexpected ts)
    else .ok (.simple as ws rs line, ts)

def specialBuiltins : List String :=
  [":", ".", "break", "continue", "eval", "exec", "exit", "export", "readonly", "return", "set", "shift",
   "times", "trap", "unset"]

mutual

def readList : Nat → List Token → Except ParseError (Command × List Token)
  | 0, _ => .error tooLong
  | f + 1, ts =>
    match skipNewlines ts with
    | [] => .ok (.seq [], [])
    | t :: rest =>
      if t.closesList then .error (unexpected (t :: rest)) else readItems f (t :: rest) []

def readArmList : Nat → List Token → Except ParseError (Command × List Token)
  | 0, _ => .error tooLong
  | f + 1, ts => readItems f (skipNewlines ts) []

def readItems : Nat → List Token → List Command → Except ParseError (Command × List Token)
  | 0, _, _ => .error tooLong
  | _ + 1, [], acc => .ok (.seq acc.reverse, [])
  | f + 1, t :: rest, acc =>
    if t.closesList then .ok (.seq acc.reverse, t :: rest)
    else do
      let (c, after) ← readAndOr f (t :: rest)
      match after with
      | .op ";" :: more => readItems f (skipNewlines more) (c :: acc)
      | .op "&" :: more => readItems f (skipNewlines more) (.background c :: acc)
      | .newline :: more => readItems f (skipNewlines more) (c :: acc)
      | _ => .ok (.seq (c :: acc).reverse, after)

def readAndOr : Nat → List Token → Except ParseError (Command × List Token)
  | 0, _ => .error tooLong
  | f + 1, ts => do
    let (p, after) ← readPipeline f ts
    readAndOrRest f p after

def readAndOrRest : Nat → Command → List Token → Except ParseError (Command × List Token)
  | 0, _, _ => .error tooLong
  | f + 1, acc, .op "&&" :: rest => do
    let (p, after) ← readPipeline f (skipNewlines rest)
    readAndOrRest f (.andThen acc p) after
  | f + 1, acc, .op "||" :: rest => do
    let (p, after) ← readPipeline f (skipNewlines rest)
    readAndOrRest f (.orElse acc p) after
  | _ + 1, acc, ts => .ok (acc, ts)

def readPipeline : Nat → List Token → Except ParseError (Command × List Token)
  | 0, _ => .error tooLong
  | f + 1, t :: rest => do
    let negate := t.isWord "!"
    let (c, after) ← readCommand f (if negate then rest else t :: rest)
    let (cs, after) ← readPipeRest f [c] after
    match cs, negate with
    | [one], false => pure (one, after)
    | _, _ => pure (.pipe cs negate, after)
  | _ + 1, [] => .error (unexpected [])

def readPipeRest : Nat → List Command → List Token → Except ParseError (List Command × List Token)
  | 0, _, _ => .error tooLong
  | f + 1, acc, .op "|" :: rest => do
    let (c, after) ← readCommand f (skipNewlines rest)
    readPipeRest f (acc ++ [c]) after
  | _ + 1, acc, ts => .ok (acc, ts)

def readCommand : Nat → List Token → Except ParseError (Command × List Token)
  | 0, _ => .error tooLong
  | f + 1, ts@(.word w _ :: rest) =>
    match plainText? w, rest with
    | some "if", _ => readIf f rest
    | some "while", _ => readLoop f rest false
    | some "until", _ => readLoop f rest true
    | some "for", _ => readFor f rest
    | some "case", _ => readCase f rest
    | some "\x7b", _ => do
      let (body, after) ← readList f rest
      let after ← expectWord "\x7d" after
      let (rs, after) ← readRedirects f after []
      pure (.group body rs, after)
    | name, .op "(" :: more =>
      if (assignment? w).isSome then readSimple f ts [] [] [] 0
      else
        match more with
        | .op ")" :: body =>
          match name with
          | some n =>
            if isName n && !specialBuiltins.contains n then do
              let (c, after) ← readCommand f (skipNewlines body)
              pure (.function n c, after)
            else .error ⟨more.length, "Syntax error: Bad function name"⟩
          | none => .error ⟨more.length, "Syntax error: Bad function name"⟩
        | _ => .error (unexpectedExpecting more (some ")"))
    | _, _ => readSimple f ts [] [] [] 0
  | f + 1, .op "(" :: rest => do
    let (body, after) ← readList f rest
    match after with
    | .op ")" :: more => do
      let (rs, more) ← readRedirects f more []
      pure (.subshell body rs, more)
    | _ => .error (unexpectedExpecting after (some ")"))
  | f + 1, ts => readSimple f ts [] [] [] 0

def readIf : Nat → List Token → Except ParseError (Command × List Token)
  | 0, _ => .error tooLong
  | f + 1, ts => do
    let (cond, after) ← readList f ts
    let after ← expectWord "then" after
    let (thenPart, after) ← readList f after
    match after with
    | t :: more =>
      if t.isWord "elif" then do
        let (elsePart, after) ← readIf f more
        pure (.ifThen cond thenPart (some elsePart) [], after)
      else if t.isWord "else" then do
        let (elsePart, after) ← readList f more
        let after ← expectWord "fi" after
        let (rs, after) ← readRedirects f after []
        pure (.ifThen cond thenPart (some elsePart) rs, after)
      else do
        let after ← expectWord "fi" (t :: more)
        let (rs, after) ← readRedirects f after []
        pure (.ifThen cond thenPart none rs, after)
    | [] => .error (unexpectedExpecting [] (some "fi"))

def readLoop : Nat → List Token → Bool → Except ParseError (Command × List Token)
  | 0, _, _ => .error tooLong
  | f + 1, ts, untilLoop => do
    let (cond, after) ← readList f ts
    let after ← expectWord "do" after
    let (body, after) ← readList f after
    let after ← expectWord "done" after
    let (rs, after) ← readRedirects f after []
    pure (.loop cond body untilLoop rs, after)

/-- Reads a `for` loop after its keyword: a name, then `in` and the words
up to a newline or `;`, or else an optional `;`, then the body. -/
def readFor : Nat → List Token → Except ParseError (Command × List Token)
  | 0, _ => .error tooLong
  | f + 1, ts =>
    let badName : ParseError := ⟨ts.length, "Syntax error: Bad for loop variable"⟩
    match ts with
    | .word w _ :: rest =>
      match plainText? w with
      | some name =>
        if !isName name then .error badName
        else do
          let rest := skipNewlines rest
          let (items, after) ← match rest with
            | t :: more =>
              if t.isWord "in" then
                let ws := more.takeWhile fun
                  | .word _ _ => true
                  | _ => false
                let words := ws.filterMap fun
                  | .word w _ => some w
                  | _ => none
                match more.drop ws.length with
                | .newline :: after => pure (some words, after)
                | .op ";" :: after => pure (some words, after)
                | after => .error (unexpected after)
              else
                match rest with
                | .op ";" :: after => pure (none, after)
                | _ => pure (none, rest)
            | [] => pure (none, rest)
          let after ← expectWord "do" (skipNewlines after)
          let (body, after) ← readList f after
          let after ← expectWord "done" after
          let (rs, after) ← readRedirects f after []
          pure (.forEach name items body rs, after)
      | none => .error badName
    | _ => .error badName

def readCase : Nat → List Token → Except ParseError (Command × List Token)
  | 0, _ => .error tooLong
  | f + 1, .word subject _ :: rest => do
    let after ← expectWord "in" (skipNewlines rest)
    let (arms, after) ← readArms f (skipNewlines after) []
    let (rs, after) ← readRedirects f after []
    pure (.caseOf subject arms rs, after)
  | _ + 1, ts => .error (unexpected ts)

def readArms : Nat → List Token → List (List Word × Command) → Except ParseError (List (List Word × Command) × List Token)
  | 0, _, _ => .error tooLong
  | f + 1, ts, acc =>
    match ts with
    | t :: more =>
      if t.isWord "esac" then .ok (acc, more)
      else do
        let ts := match ts with
          | .op "(" :: more => more
          | _ => ts
        let (patterns, after) ← readPatterns f ts []
        let (body, after) ← readArmList f after
        match after with
        | .op ";;" :: more => readArms f (skipNewlines more) (acc ++ [(patterns, body)])
        | t :: more =>
          if t.isWord "esac" then .ok (acc ++ [(patterns, body)], more)
          else .error (unexpectedExpecting after (some ";;"))
        | [] => .error (unexpectedExpecting [] (some ";;"))
    | [] => .error (unexpectedExpecting [] (some ")"))

/-- Reads the patterns of a `case` arm up to and with `)`: each pattern is
the token that stands there, whatever it is, and only a word is kept. -/
def readPatterns : Nat → List Token → List Word → Except ParseError (List Word × List Token)
  | 0, _, _ => .error tooLong
  | _ + 1, [], _ => .error (unexpectedExpecting [] (some ")"))
  | f + 1, t :: rest, acc =>
    let acc := match t with
      | .word w _ => acc ++ [w]
      | _ => acc
    match rest with
    | .op "|" :: more => readPatterns f more acc
    | .op ")" :: more => .ok (acc, more)
    | .word _ _ :: _ =>
      .error ⟨rest.length, "Syntax error: word unexpected (expecting \")\")"⟩
    | _ => .error (unexpectedExpecting rest (some ")"))

end

def readLine : Nat → List Token → List Command → Except ParseError (Command × List Token)
  | 0, _, _ => .error tooLong
  | f + 1, ts, acc =>
    let ended (acc : List Command) (more : List Token) : Except ParseError (Command × List Token) :=
      match more with
      | .newline :: rest => .ok (.seq acc.reverse, rest)
      | [] => .ok (.seq acc.reverse, [])
      | _ => readLine f more acc
    match ts with
    | t :: _ =>
      if t.closesList then .error (unexpected ts)
      else do
        let (c, after) ← readAndOr f ts
        match after with
        | .op ";" :: more => ended (c :: acc) more
        | .op "&" :: more => ended (.background c :: acc) more
        | .newline :: more => .ok (.seq (c :: acc).reverse, more)
        | [] => .ok (.seq (c :: acc).reverse, [])
        | _ => .error (unexpected after)
    | [] => .ok (.seq acc.reverse, [])

/-- A script read line by line: the commands of the lines read in full, and
the syntax error that stopped the reading, with its line, if any. -/
structure Script where
  lines : List Command
  failure : Option (Nat × String)
  deriving Inhabited

/-- Reads the lines of a script from `lexed`: its tokens with their lines, the
line at the end and the failure of cutting the script. -/
def readLines (lexed : Lexed) : Nat → List Token → List Command → Script
  | 0, _, acc => ⟨acc.reverse, some (lexed.endLine, tooLong.message)⟩
  | f + 1, ts, acc =>
    let ts := skipNewlines ts
    let lineAt (remaining : Nat) : Nat :=
      ((lexed.tokens.drop (lexed.tokens.length - remaining)).head?.map (·.2)).getD lexed.endLine
    if ts.isEmpty then ⟨acc.reverse, lexed.failure⟩
    else
      match readLine (8 * ts.length + 16) ts [] with
      | .ok (c, rest) =>
        if rest.isEmpty && lexed.failure.isSome && ts.getLast? != some .newline then
          ⟨acc.reverse, lexed.failure⟩
        else readLines lexed f rest (c :: acc)
      | .error e =>
        if lexed.failure.isSome && e.remaining = 0 then ⟨acc.reverse, lexed.failure⟩
        else ⟨acc.reverse, some (lineAt e.remaining, e.message)⟩

/-- Where a token stands, for the replacement of aliases: only a word where a
command name may come is replaced. -/
inductive AliasPlace where
  /-- Where a command name may come. -/
  | command
  /-- Among the arguments of a command, or after a closing keyword. -/
  | argument
  /-- After `case`, up to `in`. -/
  | subject
  /-- Among the patterns of a `case` arm, up to `)`. -/
  | pattern
  /-- The file of a redirection, then the place before it. -/
  | target (after : AliasPlace)
  deriving Inhabited, BEq

def assignsVariable (w : Word) : Bool :=
  match w with
  | .text s false :: _ =>
    match s.splitOn "=" with
    | n :: _ :: _ => isName n
    | _ => false
  | _ => false

def commandLeaders : List String := ["if", "then", "else", "elif", "do", "while", "until", "\x7b", "!"]

def AliasPlace.afterOperator (place : AliasPlace) (o : String) : AliasPlace :=
  match place, o with
  | .pattern, ")" => .command
  | .pattern, _ => .pattern
  | _, ";;" => .pattern
  | _, _ => .command

/-- Replaces each word that names an alias where a command name may come by the tokens
of the alias's value, which are read again from that place. -/
def substituteAliases (aliases : List (String × String)) :
    Nat → List String → AliasPlace → List Token → List Token × AliasPlace
  | 0, _, place, ts => (ts, place)
  | _ + 1, _, place, [] => ([], place)
  | f + 1, inUse, place, t :: ts =>
    let keep (next : AliasPlace) : List Token × AliasPlace :=
      let (rest, final) := substituteAliases aliases f inUse next ts
      (t :: rest, final)
    match place, t with
    | .target after, _ => keep after
    | _, .op o => if (redirectOperator? o).isSome then keep (.target place) else keep (place.afterOperator o)
    | _, .ioNumber _ => keep place
    | .pattern, .newline => keep .pattern
    | .subject, .newline => keep .subject
    | _, .newline => keep .command
    | .argument, .word _ _ => keep .argument
    | .pattern, .word w _ => keep (if plainText? w == some "esac" then .argument else .pattern)
    | .subject, .word w _ => keep (if plainText? w == some "in" then .pattern else .subject)
    | .command, .word w line =>
      match plainText? w with
      | none => keep (if assignsVariable w then .command else .argument)
      | some s =>
        if commandLeaders.contains s then keep .command
        else if closingWords.contains s || s == "for" then keep .argument
        else if s == "case" then keep .subject
        else if assignsVariable w then keep .command
        else
          match aliases.find? (·.1 == s) with
          | some (_, value) =>
            if inUse.contains s then keep .argument
            else
              let valueTokens := (lex value).tokens.map fun (tok, _) => match tok with
                | .word v _ => Token.word v line
                | other => other
              let (replaced, after) := substituteAliases aliases f (s :: inUse) .command valueTokens
              let after := if value.endsWith " " || value.endsWith "\t" then .command else after
              let (rest, final) := substituteAliases aliases f inUse after ts
              (replaced ++ rest, final)
          | none => keep .argument

/-- What comes next in a script: its end, with the syntax error that stopped
the reading if any, or the command of a line and the tokens after it. -/
inductive ScriptStep where
  | finished (failure : Option (Nat × String))
  | line (c : Command) (rest : List Token)

/-- Reads the next line of a script from `lexed`, as `lines` does. -/
def nextLine (lexed : Lexed) (aliases : List (String × String)) (ts : List Token) : ScriptStep :=
  let ts := skipNewlines ts
  let lineAt (remaining : Nat) : Nat :=
    ((lexed.tokens.drop (lexed.tokens.length - remaining)).head?.map (·.2)).getD lexed.endLine
  if ts.isEmpty then .finished lexed.failure
  else
    match readLine (8 * ts.length + 16) ts [] with
    | .ok (c, rest) =>
      if rest.isEmpty && lexed.failure.isSome && ts.getLast? != some .newline then .finished lexed.failure
      else if aliases.isEmpty then .line c rest
      else
        let own := ts.take (ts.length - rest.length)
        let (replaced, _) := substituteAliases aliases (8 * own.length + 64) [] .command own
        if replaced == own then .line c rest
        else
          match readLine (8 * replaced.length + 16) replaced [] with
          | .ok (c, more) => .line c (more ++ rest)
          | .error e => .finished (some (lineAt (e.remaining + rest.length), e.message))
    | .error e =>
      if lexed.failure.isSome && e.remaining = 0 then .finished lexed.failure
      else .finished (some (lineAt e.remaining, e.message))

end Shell
end JuryCaptions
