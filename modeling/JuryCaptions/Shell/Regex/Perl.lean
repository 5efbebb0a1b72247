import JuryCaptions.Shell.Regex
/-!
Perl's syntax, as `grep -P` reads it, read into the tokens of the other dialects.
-/

namespace JuryCaptions
namespace Shell
namespace Perl

/-- The tokens read so far, newest first, the groups that capture and the
names given to them. -/
structure Scan where
  tokens : List ReToken := []
  groups : Nat := 0
  names : List (String × Nat) := []

def repeatable : Option ReToken → Bool
  | some (.lit _) | some .any | some (.set _) | some .closeGroup | some (.backref _) | some (.atom _) => true
  | _ => false

def isOctal (c : Char) : Bool := '0' ≤ c && c ≤ '7'

def digitsValue (base : Nat) (ds : List Char) : Nat :=
  ds.foldl (fun n d => base * n + (Utf8.hexDigit? d).getD 0) 0

def escapedChar : List Char → Except String (Option (Char × List Char))
  | [] => .error "\\ at end of pattern"
  | 'a' :: rest => .ok (some ('\x07', rest))
  | 'e' :: rest => .ok (some ('\x1b', rest))
  | 'f' :: rest => .ok (some ('\x0c', rest))
  | 'n' :: rest => .ok (some ('\n', rest))
  | 'r' :: rest => .ok (some ('\r', rest))
  | 't' :: rest => .ok (some ('\t', rest))
  | 'x' :: '\x7b' :: rest =>
    let ds := rest.takeWhile fun d => (Utf8.hexDigit? d).isSome
    match rest.drop ds.length with
    | '\x7d' :: after =>
      if ds.isEmpty then .error "digits missing in \\x\x7b\x7d or \\o\x7b\x7d or \\N\x7b\x7d"
      else .ok (some (Char.ofNat (digitsValue 16 ds), after))
    | _ => .error "non-hex character in \\x\x7b\x7d (closing brace missing?)"
  | 'x' :: rest =>
    let ds := (rest.takeWhile fun d => (Utf8.hexDigit? d).isSome).take 2
    .ok (some (Char.ofNat (digitsValue 16 ds), rest.drop ds.length))
  | 'o' :: '\x7b' :: rest =>
    let ds := rest.takeWhile isOctal
    match rest.drop ds.length with
    | '\x7d' :: after =>
      if ds.isEmpty then .error "digits missing in \\x\x7b\x7d or \\o\x7b\x7d or \\N\x7b\x7d"
      else .ok (some (Char.ofNat (digitsValue 8 ds), after))
    | _ => .error "non-octal character in \\o\x7b\x7d (closing brace missing?)"
  | '0' :: rest =>
    let ds := (rest.takeWhile isOctal).take 2
    .ok (some (Char.ofNat (digitsValue 8 ds), rest.drop ds.length))
  | ['c'] => .error "\\c at end of pattern"
  | 'c' :: k :: rest =>
    if k.toNat < 32 || k.toNat > 126 then .error "\\c must be followed by a printable ASCII character"
    else .ok (some (Char.ofNat ((if 'a' ≤ k && k ≤ 'z' then k.toNat - 32 else k.toNat) ^^^ 64), rest))
  | c :: rest => if c.isAlphanum then .ok none else .ok (some (c, rest))

def classEscape (c : Char) : Option String :=
  let name := match c.toLower with
    | 'd' => some "ascii-digit"
    | 'w' => some "ascii-word"
    | 's' => some "ascii-space"
    | 'h' => some "horizontal"
    | 'v' => some "vertical"
    | _ => none
  name.map fun n => if c.isUpper then "!" ++ n else n

def posixNames : List String :=
  ["alpha", "digit", "alnum", "upper", "lower", "space", "blank", "punct", "xdigit", "print", "graph", "cntrl",
    "word"]

def posixClass (cs : List Char) : Option (Except String (String × List Char)) :=
  let (negate, cs) := match cs with
    | '^' :: rest => (true, rest)
    | _ => (false, cs)
  let name := cs.takeWhile Char.isAlpha
  match cs.drop name.length with
  | ':' :: ']' :: after =>
    let n := String.ofList name
    if n == "ascii" then some (.ok ((if negate then "!" else "") ++ "ascii-any", after))
    else if posixNames.contains n then some (.ok ((if negate then "!" else "") ++ "ascii-" ++ n, after))
    else some (.error "unknown POSIX class name")
  | _ => none

def setEscape (cs : List Char) : Except String ((Char ⊕ String) × List Char) :=
  match cs with
  | 'b' :: rest => .ok (.inl '\x08', rest)
  | c :: rest =>
    match classEscape c with
    | some n => .ok (.inr n, rest)
    | none =>
      if '1' ≤ c && c ≤ '7' then
        let ds := (cs.takeWhile isOctal).take 3
        .ok (.inl (Char.ofNat (digitsValue 8 ds)), cs.drop ds.length)
      else if c == '8' || c == '9' then .ok (.inl c, rest)
      else match escapedChar cs with
        | .ok (some (ch, after)) => .ok (.inl ch, after)
        | .ok none => .error "unrecognized character follows \\"
        | .error e => .error e
  | [] => .error "\\ at end of pattern"

def setMember : List Char → Except String ((Char ⊕ String) × List Char)
  | '\\' :: rest => setEscape rest
  | '[' :: ':' :: rest =>
    match posixClass rest with
    | some (.ok (n, after)) => .ok (.inr n, after)
    | some (.error e) => .error e
    | none => .ok (.inl '[', ':' :: rest)
  | c :: rest => .ok (.inl c, rest)
  | [] => .error "missing terminating ] for character class"

def readSet : Nat → List Char → CharSet → Bool → Except String (CharSet × List Char)
  | 0, _, _, _ => .error "missing terminating ] for character class"
  | _ + 1, [], _, _ => .error "missing terminating ] for character class"
  | f + 1, ']' :: rest, acc, first =>
    if first then readSet f rest { acc with ranges := acc.ranges ++ [(']', ']')] } false else .ok (acc, rest)
  | f + 1, cs, acc, _ => do
    let (m, rest) ← setMember cs
    match m with
    | .inr n => readSet f rest { acc with classes := acc.classes ++ [n] } false
    | .inl lo =>
      match rest with
      | '-' :: more =>
        if more.head? == some ']' then readSet f more { acc with ranges := acc.ranges ++ [(lo, lo), ('-', '-')] } false
        else
          let (hi, after) ← setMember more
          match hi with
          | .inl hi =>
            if hi < lo then .error "range out of order in character class"
            else readSet f after { acc with ranges := acc.ranges ++ [(lo, hi)] } false
          | .inr n =>
            readSet f after { acc with ranges := acc.ranges ++ [(lo, lo), ('-', '-')], classes := acc.classes ++ [n] } false
      | _ => readSet f rest { acc with ranges := acc.ranges ++ [(lo, lo)] } false

def wordSet : CharSet := { classes := ["ascii-word"] }

def wordEdge : Regex :=
  .alt [.seq [.look true false (.set wordSet), .look false true (.set wordSet)],
    .seq [.look true true (.set wordSet), .look false false (.set wordSet)]]

def inWord : Regex :=
  .alt [.seq [.look true false (.set wordSet), .look false false (.set wordSet)],
    .seq [.look true true (.set wordSet), .look false true (.set wordSet)]]

def notNewline : CharSet := { ranges := [('\n', '\n')], negate := true }

def property (name : String) (negate : Bool) : Except String CharSet :=
  let (negate, name) := if name.startsWith "^" then (!negate, (name.drop 1).toString) else (negate, name)
  let set : Option CharSet := match name with
    | "L" | "L&" => some { classes := ["alpha"] }
    | "Lu" => some { classes := ["upper"] }
    | "Ll" => some { classes := ["lower"] }
    | "N" | "Nd" => some { classes := ["digit"] }
    | "P" => some { classes := ["punct"] }
    | "Z" | "Zs" => some { classes := ["blank"] }
    | "Xan" => some { classes := ["alnum"] }
    | "Xwd" => some { classes := ["word"] }
    | "Xsp" | "Xps" => some { classes := ["space"] }
    | "Any" => some { negate := true }
    | _ => none
  match set with
  | some s => .ok { s with negate := s.negate != negate }
  | none => .error "unknown property name after \\P or \\p"

def readName (close : Char) (cs : List Char) : Except String (String × List Char) :=
  let name := cs.takeWhile fun c => c.isAlphanum || c == '_'
  if name.head?.any Char.isDigit then .error "subpattern name must start with a non-digit"
  else match cs.drop name.length with
    | c :: after => if c == close && !name.isEmpty then .ok (String.ofList name, after)
      else .error "syntax error in subpattern name (missing terminator?)"
    | [] => .error "syntax error in subpattern name (missing terminator?)"

def Scan.named (s : Scan) (name : String) : Except String Nat :=
  match s.names.find? (·.1 == name) with
  | some (_, n) => .ok n
  | none => .error "reference to non-existent subpattern"

def readBounds (cs : List Char) : Option (Nat × Option Nat × List Char) :=
  let lo := cs.takeWhile Char.isDigit
  if lo.isEmpty then none
  else
    let lo' := digitsValue 10 lo
    match cs.drop lo.length with
    | '\x7d' :: after => some (lo', some lo', after)
    | ',' :: more =>
      let hi := more.takeWhile Char.isDigit
      match more.drop hi.length with
      | '\x7d' :: after => some (lo', if hi.isEmpty then none else some (digitsValue 10 hi), after)
      | _ => none
    | _ => none

def knownFlags (cs : List Char) : Bool := cs.all ("imnsxJU-^".toList.contains ·)

def tokens : Nat → List Char → Scan → Except String Scan
  | 0, _, s => .ok s
  | _ + 1, [], s => .ok s
  | f + 1, c :: rest, s =>
    let push (t : ReToken) (more : List Char) : Except String Scan :=
      tokens f more { s with tokens := t :: s.tokens }
    let quantify (t : ReToken) (more : List Char) : Except String Scan :=
      if !repeatable s.tokens.head? then .error "quantifier does not follow a repeatable item"
      else match more with
        | '?' :: after => tokens f after { s with tokens := .lazy :: t :: s.tokens }
        | '+' :: after => tokens f after { s with tokens := .possessive :: t :: s.tokens }
        | _ => push t more
    let openGroup (name : Option String) (more : List Char) : Except String Scan :=
      let n := s.groups + 1
      match name with
      | some nm =>
        if s.names.any (·.1 == nm) then .error "two named subpatterns have the same name (PCRE2_DUPNAMES not set)"
        else tokens f more { s with tokens := .openGroup :: s.tokens, groups := n, names := s.names ++ [(nm, n)] }
      | none => tokens f more { s with tokens := .openGroup :: s.tokens, groups := n }
    match c with
    | '.' => push (.set notNewline) rest
    | '[' =>
      let (negate, body) := match rest with
        | '^' :: more => (true, more)
        | _ => (false, rest)
      match readSet (body.length + 1) body { negate } true with
      | .ok (set, more) => push (.set set) more
      | .error e => .error e
    | '^' => push .caret rest
    | '$' => push .dollar rest
    | '|' => push .bar rest
    | ')' => push .closeGroup rest
    | '*' => quantify .star rest
    | '+' => quantify .plus rest
    | '?' => quantify .quest rest
    | '\x7b' =>
      match readBounds rest with
      | some (lo, hi, after) =>
        if (hi.getD lo) > 65535 || lo > 65535 then .error "number too big in \x7b\x7d quantifier"
        else if hi.any (· < lo) then .error "numbers out of order in \x7b\x7d quantifier"
        else quantify (.interval lo hi) after
      | none => push (.lit c) rest
    | '(' =>
      match rest with
      | '?' :: ':' :: more => push (.openSpecial .plain) more
      | '?' :: '|' :: more => push (.openSpecial .plain) more
      | '?' :: '=' :: more => push (.openSpecial (.look false false)) more
      | '?' :: '!' :: more => push (.openSpecial (.look false true)) more
      | '?' :: '<' :: '=' :: more => push (.openSpecial (.look true false)) more
      | '?' :: '<' :: '!' :: more => push (.openSpecial (.look true true)) more
      | '?' :: '>' :: more => push (.openSpecial .atomic) more
      | '?' :: '#' :: more =>
        let note := more.takeWhile (· != ')')
        match more.drop note.length with
        | _ :: after => tokens f after s
        | [] => .error "missing ) after (?# comment"
      | '?' :: '<' :: more | '?' :: 'P' :: '<' :: more => do
        let (name, after) ← readName '>' more
        openGroup (some name) after
      | '?' :: '\'' :: more => do
        let (name, after) ← readName '\'' more
        openGroup (some name) after
      | '?' :: 'P' :: '=' :: more => do
        let (name, after) ← readName ')' more
        push (.backref (← s.named name)) after
      | '?' :: 'P' :: _ => .error "unrecognized character after (?P"
      | '?' :: more =>
        let flags := more.takeWhile fun k => k != ')' && k != ':'
        let on := flags.takeWhile (· != '-')
        match more.drop flags.length with
        | close :: after =>
          if flags.isEmpty && close == ':' || !knownFlags flags then
            .error "unrecognized character after (? or (?-"
          else if close == ')' then
            if on.contains 'i' then push .caselessRest after else tokens f after s
          else push (.openSpecial (if on.contains 'i' then .caseless else .plain)) after
        | [] => .error "missing closing parenthesis"
      | _ => openGroup none rest
    | '\\' =>
      match rest with
      | [] => .error "\\ at end of pattern"
      | e :: more =>
        match classEscape e with
        | some n => push (.set { classes := [n] }) more
        | none =>
          match e with
          | 'N' => push (.set notNewline) more
          | 'R' => push (.atom (.atomic (.alt [.seq [.char '\r', .char '\n'], .set { classes := ["vertical"] }]))) more
          | 'X' => push (.set { negate := true }) more
          | 'b' => push (.edge wordEdge) more
          | 'B' => push (.edge inWord) more
          | 'A' | 'G' => push (.edge .lineStart) more
          | 'z' => push (.edge .lineEnd) more
          | 'Z' => push (.edge (.alt [.lineEnd, .look false false (.seq [.char '\n', .lineEnd])])) more
          | 'K' => push (.edge .keepOut) more
          | 'E' => tokens f more s
          | 'Q' =>
            let quoted := (String.ofList more).splitOn "\\E"
            let text := (quoted.headD "").toList
            let after := (String.intercalate "\\E" (quoted.drop 1)).toList
            tokens f after { s with tokens := (text.map ReToken.lit).reverse ++ s.tokens }
          | 'p' | 'P' =>
            let (name, after) : String × List Char := match more with
              | '\x7b' :: inner =>
                let n := inner.takeWhile (· != '\x7d')
                (String.ofList n, inner.drop (n.length + 1))
              | k :: after => (String.singleton k, after)
              | [] => ("", [])
            match property name (e == 'P') with
            | .ok set => push (.set set) after
            | .error err => .error err
          | 'k' =>
            let close : Option Char := match more.head? with
              | some '<' => some '>'
              | some '\'' => some '\''
              | some '\x7b' => some '\x7d'
              | _ => none
            match close with
            | some k => do
              let (name, after) ← readName k (more.drop 1)
              push (.backref (← s.named name)) after
            | none => .error "\\k is not followed by a braced, angle-bracketed, or quoted name"
          | 'g' =>
            let (body, after) : List Char × List Char := match more with
              | '\x7b' :: inner =>
                let b := inner.takeWhile (· != '\x7d')
                (b, inner.drop (b.length + 1))
              | _ =>
                let b := more.takeWhile fun k => k.isDigit || k == '-'
                (b, more.drop b.length)
            let ds := body.filter Char.isDigit
            if body.isEmpty then
              .error "\\g is not followed by a braced, angle-bracketed, or quoted name/number or by a plain number"
            else if body.head? == some '-' && ds.length + 1 == body.length then
              let back := digitsValue 10 ds
              if back == 0 || back > s.groups then .error "reference to non-existent subpattern"
              else push (.backref (s.groups + 1 - back)) after
            else if ds.length == body.length then push (.backref (digitsValue 10 ds)) after
            else do push (.backref (← s.named (String.ofList body))) after
          | _ =>
            if '1' ≤ e && e ≤ '9' then
              let ds := (e :: more).takeWhile Char.isDigit
              push (.backref (digitsValue 10 ds)) ((e :: more).drop ds.length)
            else match escapedChar (e :: more) with
              | .ok (some (ch, after)) => push (.lit ch) after
              | .ok none => .error "unrecognized character follows \\"
              | .error err => .error err
    | _ => push (.lit c) rest

def fixedWidth : Regex → Option Nat
  | .char _ | .any | .set _ => some 1
  | .lineStart | .lineEnd | .wordEdge | .inWord | .wordStart | .wordEnd | .look _ _ _ | .keepOut => some 0
  | .seq parts => (parts.map fixedWidth).foldl (fun acc w => acc.bind fun a => w.map (a + ·)) (some 0)
  | .alt choices =>
    match choices.map fixedWidth with
    | [] => some 0
    | w :: ws => if ws.all (· == w) then w else none
  | .repeat r lo hi | .lazy r lo hi => if hi == some lo then (fixedWidth r).map (lo * ·) else none
  | .group _ r | .atomic r => fixedWidth r
  | .backref _ => none

def lookbehindsFixed : Regex → Bool
  | .look true _ r =>
    let branches := match r with
      | .alt choices => choices
      | r => [r]
    branches.all (fun b => (fixedWidth b).isSome) && lookbehindsFixed r
  | .look false _ r | .repeat r _ _ | .lazy r _ _ | .group _ r | .atomic r => lookbehindsFixed r
  | .seq parts => (parts.map lookbehindsFixed).all id
  | .alt choices => (choices.map lookbehindsFixed).all id
  | _ => true

def message (e : String) : String :=
  if e == "Unmatched ( or \\(" then "missing closing parenthesis"
  else if e == "Unmatched ) or \\)" then "unmatched closing parenthesis"
  else if e == "Invalid back reference" then "reference to non-existent subpattern"
  else if e == "Regular expression too big" then "regular expression is too large"
  else e

end Perl

def Regex.compilePerl (pattern : String) : Except String Regex := do
  let cs := pattern.toList
  let scan ← Perl.tokens (cs.length + 1) cs {}
  let ts := scan.tokens.reverse
  match reAlt (4 * ts.length + 8) ts 1 with
  | .error e => throw (Perl.message e)
  | .ok (r, _, rest) =>
    if !rest.isEmpty then throw "unmatched closing parenthesis"
    else if scan.tokens.any (fun t => match t with | .backref k => k > scan.groups | _ => false) then
      throw "reference to non-existent subpattern"
    else if !Perl.lookbehindsFixed r then throw "lookbehind assertion is not fixed length"
    else pure r

def Regex.perlWord (r : Regex) : Regex :=
  .seq [.look true true (.set Perl.wordSet), r, .look false true (.set Perl.wordSet)]

end Shell
end JuryCaptions
