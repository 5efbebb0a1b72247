import JuryCaptions.Shell.Classes
import JuryCaptions.Text.Wide
/-!
Regular expressions of the text utilities: basic for `grep`, `sed`, `expr`,
extended for `-E`. In a basic one `\(` `\)` group, `\{m,n\}`, `\+`, `\?` repeat,
`\|` separates, and `*` is plain at the start of an expression or group.
-/

namespace JuryCaptions
namespace Shell

/-- A set of characters: ranges and named classes, or what lies outside them.
A stray byte lies in no set, nor in the complement of one. -/
structure CharSet where
  ranges : List (Char × Char) := []
  classes : List String := []
  negate : Bool := false
  deriving Repr, Inhabited

def isWordChar (c : Char) : Bool := Wide.isAlpha c || Wide.isDigit c || c == '_'

def isHorizontalSpace (c : Char) : Bool :=
  c == '\t' || c == ' ' || c.toNat == 0xA0 || c.toNat == 0x1680 || c.toNat == 0x180E ||
    (0x2000 ≤ c.toNat && c.toNat ≤ 0x200A) || c.toNat == 0x202F || c.toNat == 0x205F || c.toNat == 0x3000

def isVerticalSpace (c : Char) : Bool :=
  ('\n' ≤ c && c ≤ '\r') || c.toNat == 0x85 || c.toNat == 0x2028 || c.toNat == 0x2029

def classHolds (name : String) (c : Char) : Bool :=
  let (negate, name) := if name.startsWith "!" then (true, (name.drop 1).toString) else (false, name)
  let (ascii, name) := if name.startsWith "ascii-" then (true, (name.drop 6).toString) else (false, name)
  let inside :=
    if name == "horizontal" then isHorizontalSpace c
    else if name == "vertical" then isVerticalSpace c
    else if name == "word" then isWordChar c
    else if name == "any" then true
    else (Wide.classTest name).any (· c)
  ((!ascii || c.toNat < 128) && inside) != negate

def CharSet.holds (s : CharSet) (c : Char) : Bool :=
  !Wide.isStray c &&
    ((s.ranges.any fun (lo, hi) => lo ≤ c && c ≤ hi) || s.classes.any (classHolds · c)) != s.negate

inductive Regex where
  | char (c : Char)
  | any
  | set (s : CharSet)
  | lineStart
  | lineEnd
  | seq (parts : List Regex)
  | alt (choices : List Regex)
  /-- Between `min` and `max` repetitions, as many as possible. -/
  | repeat (r : Regex) (min : Nat) (max : Option Nat)
  /-- A group, numbered from 1 in the order of its opening. -/
  | group (n : Nat) (r : Regex)
  | backref (n : Nat)
  /-- The edge of a word: a word character on one side only. -/
  | wordEdge
  /-- Not the edge of a word. -/
  | inWord
  /-- The start of a word. -/
  | wordStart
  /-- The end of a word. -/
  | wordEnd
  /-- A look at what follows, or with `behind` at what precedes, that matches
  no character: it holds when `r` matches there, or with `negative` when it
  does not. -/
  | look (behind negative : Bool) (r : Regex)
  /-- Between `min` and `max` repetitions, as few as possible. -/
  | lazy (r : Regex) (min : Nat) (max : Option Nat)
  /-- The match `r` prefers, with no other tried when what follows fails. -/
  | atomic (r : Regex)
  /-- Matches no character and starts the reported match here. -/
  | keepOut
  deriving Repr, Inhabited

/-- What a group that captures nothing does with its inside. -/
inductive GroupKind where
  /-- Matches it as it is. -/
  | plain
  /-- Looks for it ahead, or with `behind` behind, holding when it matches
  there, or with `negative` when it does not. -/
  | look (behind negative : Bool)
  /-- Matches it once, keeping the match it prefers. -/
  | atomic
  /-- Matches it with letters of either case. -/
  | caseless
  deriving Repr, Inhabited

inductive ReToken where
  | lit (c : Char)
  | any
  | set (s : CharSet)
  | caret
  | dollar
  | star
  | plus
  | quest
  | interval (min : Nat) (max : Option Nat)
  | openGroup
  | closeGroup
  | bar
  | backref (n : Nat)
  /-- An assertion that matches no character. -/
  | edge (r : Regex)
  /-- An expression read whole, which may be repeated. -/
  | atom (r : Regex)
  /-- Opens a group that captures nothing. -/
  | openSpecial (kind : GroupKind)
  /-- `?` after a repetition, which makes it take as few rounds as it can. -/
  | lazy
  /-- `+` after a repetition, which makes it keep the rounds it took. -/
  | possessive
  /-- Makes the rest of its group match letters of either case. -/
  | caselessRest
  deriving Repr, Inhabited

def readBracket (cs : List Char) : Except String (CharSet × List Char) :=
  let (negate, cs) := match cs with
    | '^' :: rest => (true, rest)
    | _ => (false, cs)
  let unmatched : Except String (CharSet × List Char) := .error "Unmatched [, [^, [:, [., or [="
  let rec go : Nat → List Char → CharSet → Bool → Except String (CharSet × List Char)
    | 0, _, _, _ => unmatched
    | _ + 1, [], _, _ => unmatched
    | f + 1, ']' :: rest, acc, first =>
      if first then go f rest { acc with ranges := acc.ranges ++ [(']', ']')] } false else .ok (acc, rest)
    | f + 1, '[' :: k :: rest, acc, _ =>
      if k == ':' || k == '.' || k == '=' then
        let name := rest.takeWhile (· != k)
        match rest.drop name.length with
        | _ :: ']' :: more =>
          if k == ':' then
            if (Wide.classTest (String.ofList name)).isNone then .error "Invalid character class name"
            else go f more { acc with classes := acc.classes ++ [String.ofList name] } false
          else match name with
            | [c] => go f more { acc with ranges := acc.ranges ++ [(c, c)] } false
            | _ => .error "Invalid collation character"
        | _ => if k == ':' then go f (k :: rest) { acc with ranges := acc.ranges ++ [('[', '[')] } false else unmatched
      else go f (k :: rest) { acc with ranges := acc.ranges ++ [('[', '[')] } false
    | f + 1, a :: '-' :: b :: rest, acc, _ =>
      if b == ']' then go f (']' :: rest) { acc with ranges := acc.ranges ++ [(a, a), ('-', '-')] } false
      else if b < a then .error "Invalid range end"
      else go f rest { acc with ranges := acc.ranges ++ [(a, b)] } false
    | f + 1, a :: rest, acc, _ => go f rest { acc with ranges := acc.ranges ++ [(a, a)] } false
  go (cs.length + 1) cs { negate } true

def readInterval (cs : List Char) (close : List Char) : Except (Bool × String) (Nat × Option Nat × List Char) :=
  let num (ds : List Char) : Nat := ds.foldl (fun n d => 10 * n + (d.toNat - '0'.toNat)) 0
  let closed := ((String.ofList cs).splitOn (String.ofList close)).length > 1
  let malformed : Except (Bool × String) (Nat × Option Nat × List Char) :=
    .error (true, if closed then "Invalid content of \\\x7b\\\x7d" else "Unmatched \\\x7b")
  let lo := cs.takeWhile Char.isDigit
  let rest := cs.drop lo.length
  let bounds (lo : Nat) (hi : Option Nat) (after : List Char) : Except (Bool × String) (Nat × Option Nat × List Char) :=
    if (hi.map (decide <| · < lo)).getD false then .error (false, "Invalid content of \\\x7b\\\x7d")
    else if (hi.getD lo) > 32767 then .error (false, "Regular expression too big")
    else .ok (lo, hi, after)
  match rest with
  | ',' :: more =>
    let hi := more.takeWhile Char.isDigit
    let after := more.drop hi.length
    if after.take close.length == close then
      bounds (num lo) (if hi.isEmpty then none else some (num hi)) (after.drop close.length)
    else malformed
  | _ =>
    if !lo.isEmpty && rest.take close.length == close then bounds (num lo) (some (num lo)) (rest.drop close.length)
    else malformed

structure Dialect where
  /-- Whether the syntax is extended. -/
  extended : Bool := false
  /-- Whether what the strict reading refuses is taken as it comes: a repetition
  with nothing to repeat is plain text in a basic expression and dropped in an
  extended one; a brace opening no interval and an unmatched `)` are plain. -/
  lenient : Bool := false
  /-- Whether `\n` and `\t` stand for a newline and a tab. -/
  controls : Bool := false
  deriving Inhabited

def openGroups (acc : List ReToken) : Int :=
  acc.foldl (fun n t => match t with
    | .openGroup => n + 1
    | .openSpecial _ => n + 1
    | .closeGroup => n - 1
    | _ => n) 0

def reTokens (d : Dialect) : Nat → List Char → Option ReToken → List ReToken → Except String (List ReToken)
  | 0, _, _, acc => .ok acc.reverse
  | _ + 1, [], _, acc => .ok acc.reverse
  | f + 1, c :: rest, prev, acc =>
    let extended := d.extended
    let opening := match prev with
      | none => true
      | some .openGroup => true
      | some .bar => true
      | _ => false
    let afterAnchor := match prev with
      | some .caret => true
      | some .dollar => true
      | some (.edge _) => true
      | _ => false
    let nothing := opening || (afterAnchor && !(extended && d.lenient))
    let push (t : ReToken) (more : List Char) := reTokens d f more (some t) (t :: acc)
    let bare (more : List Char) : Except String (List ReToken) :=
      if !extended then push (.lit c) more
      else if d.lenient then reTokens d f more prev acc
      else .error "Invalid preceding regular expression"
    match c with
    | '.' => push .any rest
    | '[' =>
      match readBracket rest with
      | .ok (members, more) => push (.set members) more
      | .error e => .error e
    | '*' => if nothing then bare rest else push .star rest
    | '^' =>
      if extended || opening then push .caret rest else push (.lit '^') rest
    | '$' =>
      let atEnd := match rest with
        | [] => true
        | '\\' :: ')' :: _ => !extended
        | '\\' :: '|' :: _ => !extended
        | _ => false
      if extended || atEnd then push .dollar rest else push (.lit '$') rest
    | '\\' =>
      match rest with
      | [] => .error "Trailing backslash"
      | e :: more =>
        if !extended && e == '(' then push .openGroup more
        else if !extended && e == ')' then push .closeGroup more
        else if !extended && e == '|' then push .bar more
        else if !extended && e == '+' then (if nothing then push (.lit '+') more else push .plus more)
        else if !extended && e == '?' then (if nothing then push (.lit '?') more else push .quest more)
        else if !extended && e == '\x7b' then
          if nothing then
            if d.lenient then push (.lit '\x7b') more else .error "Invalid preceding regular expression"
          else
            match readInterval more ['\\', '\x7d'] with
            | .ok (lo, hi, after) => push (.interval lo hi) after
            | .error (_, why) => .error why
        else if e.isDigit && e != '0' then push (.backref (e.toNat - '0'.toNat)) more
        else if e == 'w' || e == 'W' then
          push (.set { ranges := [('_', '_')], classes := ["alnum"], negate := e == 'W' }) more
        else if e == 's' || e == 'S' then push (.set { classes := ["space"], negate := e == 'S' }) more
        else if e == 'b' then push (.edge .wordEdge) more
        else if e == 'B' then push (.edge .inWord) more
        else if e == '<' then push (.edge .wordStart) more
        else if e == '>' then push (.edge .wordEnd) more
        else if e == '\x60' then push (.edge .lineStart) more
        else if e == '\'' then push (.edge .lineEnd) more
        else if d.controls && e == 'n' then push (.lit '\n') more
        else if d.controls && e == 't' then push (.lit '\t') more
        else push (.lit e) more
    | _ =>
      if extended then
        match c with
        | '(' => push .openGroup rest
        | ')' => if d.lenient && openGroups acc ≤ 0 then push (.lit ')') rest else push .closeGroup rest
        | '|' => push .bar rest
        | '+' => if nothing then bare rest else push .plus rest
        | '?' => if nothing then bare rest else push .quest rest
        | '\x7b' =>
          match readInterval rest ['\x7d'] with
          | .ok (lo, hi, after) => if nothing then bare after else push (.interval lo hi) after
          | .error (malformed, why) => if malformed && d.lenient then push (.lit c) rest else .error why
        | _ => push (.lit c) rest
      else push (.lit c) rest

def rePostfix : Nat → Regex → List ReToken → Regex × List ReToken
  | 0, r, ts => (r, ts)
  | f + 1, r, .star :: .lazy :: rest => rePostfix f (.lazy r 0 none) rest
  | f + 1, r, .plus :: .lazy :: rest => rePostfix f (.lazy r 1 none) rest
  | f + 1, r, .quest :: .lazy :: rest => rePostfix f (.lazy r 0 (some 1)) rest
  | f + 1, r, .interval lo hi :: .lazy :: rest => rePostfix f (.lazy r lo hi) rest
  | f + 1, r, .star :: .possessive :: rest => rePostfix f (.atomic (.repeat r 0 none)) rest
  | f + 1, r, .plus :: .possessive :: rest => rePostfix f (.atomic (.repeat r 1 none)) rest
  | f + 1, r, .quest :: .possessive :: rest => rePostfix f (.atomic (.repeat r 0 (some 1))) rest
  | f + 1, r, .interval lo hi :: .possessive :: rest => rePostfix f (.atomic (.repeat r lo hi)) rest
  | f + 1, r, .star :: rest => rePostfix f (.repeat r 0 none) rest
  | f + 1, r, .plus :: rest => rePostfix f (.repeat r 1 none) rest
  | f + 1, r, .quest :: rest => rePostfix f (.repeat r 0 (some 1)) rest
  | f + 1, r, .interval lo hi :: rest => rePostfix f (.repeat r lo hi) rest
  | _ + 1, r, ts => (r, ts)

def foldRanges (ranges : List (Char × Char)) : List (Char × Char) :=
  let shifted (lo hi : Char) (first last : Char) (up : Bool) : Option (Char × Char) :=
    let l := if lo < first then first else lo
    let h := if last < hi then last else hi
    let move (c : Char) : Char := Char.ofNat (if up then c.toNat - 32 else c.toNat + 32)
    if l ≤ h then some (move l, move h) else none
  ranges ++ ranges.filterMap (fun (lo, hi) => shifted lo hi 'A' 'Z' false) ++
    ranges.filterMap (fun (lo, hi) => shifted lo hi 'a' 'z' true)

def Regex.foldCase : Regex → Regex
  | .char c =>
    if Wide.toUpper c != c || Wide.toLower c != c then
      .set { ranges := [(c, c), (Wide.toLower c, Wide.toLower c), (Wide.toUpper c, Wide.toUpper c)] }
    else .char c
  | .set members =>
    let singles := members.ranges.filterMap fun (lo, hi) =>
      if lo == hi && lo.toNat ≥ 128 then some [(Wide.toLower lo, Wide.toLower lo), (Wide.toUpper lo, Wide.toUpper lo)]
      else none
    let classes := if members.classes.contains "upper" || members.classes.contains "lower" then
        members.classes ++ ["alpha"]
      else members.classes
    let classes := if classes.contains "ascii-upper" || classes.contains "ascii-lower" then
        classes ++ ["ascii-alpha"]
      else classes
    .set { members with ranges := foldRanges members.ranges ++ singles.flatten, classes }
  | .seq parts => .seq (parts.map Regex.foldCase)
  | .alt choices => .alt (choices.map Regex.foldCase)
  | .repeat r lo hi => .repeat r.foldCase lo hi
  | .lazy r lo hi => .lazy r.foldCase lo hi
  | .look behind negative r => .look behind negative r.foldCase
  | .group n r => .group n r.foldCase
  | .atomic r => .atomic r.foldCase
  | r => r

mutual

def reAlt : Nat → List ReToken → Nat → Except String (Regex × Nat × List ReToken)
  | 0, _, _ => .error "Regular expression too big"
  | f + 1, ts, n => do
    let (first, n, rest) ← reSeq f ts n []
    reAltRest f [first] rest n

def reAltRest : Nat → List Regex → List ReToken → Nat → Except String (Regex × Nat × List ReToken)
  | 0, _, _, _ => .error "Regular expression too big"
  | f + 1, acc, .bar :: rest, n => do
    let (next, n, rest) ← reSeq f rest n []
    reAltRest f (acc ++ [next]) rest n
  | _ + 1, acc, ts, n =>
    match acc with
    | [one] => .ok (one, n, ts)
    | _ => .ok (.alt acc, n, ts)

def reSeq : Nat → List ReToken → Nat → List Regex → Except String (Regex × Nat × List ReToken)
  | 0, _, _, _ => .error "Regular expression too big"
  | _ + 1, [], n, acc => .ok (.seq acc, n, [])
  | _ + 1, ts@(.bar :: _), n, acc => .ok (.seq acc, n, ts)
  | _ + 1, ts@(.closeGroup :: _), n, acc => .ok (.seq acc, n, ts)
  | f + 1, .caselessRest :: rest, n, acc => do
    let (inner, n, after) ← reAlt f rest n
    .ok (.seq (acc ++ [inner.foldCase]), n, after)
  | f + 1, ts, n, acc => do
    let (atom, n, rest) ← reAtom f ts n
    let (atom, rest) := rePostfix f atom rest
    reSeq f rest n (acc ++ [atom])

def reAtom : Nat → List ReToken → Nat → Except String (Regex × Nat × List ReToken)
  | 0, _, _ => .error "Regular expression too big"
  | _ + 1, [], n => .ok (.seq [], n, [])
  | f + 1, t :: rest, n =>
    match t with
    | .lit c => .ok (.char c, n, rest)
    | .any => .ok (.any, n, rest)
    | .set members => .ok (.set members, n, rest)
    | .caret => .ok (.lineStart, n, rest)
    | .dollar => .ok (.lineEnd, n, rest)
    | .backref k => if k < n then .ok (.backref k, n, rest) else .error "Invalid back reference"
    | .edge r => .ok (r, n, rest)
    | .atom r => .ok (r, n, rest)
    | .openGroup => do
      let (inner, m, after) ← reAlt f rest (n + 1)
      match after with
      | .closeGroup :: more => .ok (.group n inner, m, more)
      | _ => .error "Unmatched ( or \\("
    | .openSpecial kind => do
      let (inner, m, after) ← reAlt f rest n
      match after with
      | .closeGroup :: more =>
        let node : Regex := match kind with
          | .plain => inner
          | .look behind negative => .look behind negative inner
          | .atomic => .atomic inner
          | .caseless => inner.foldCase
        .ok (node, m, more)
      | _ => .error "Unmatched ( or \\("
    | .closeGroup => .error "Unmatched ) or \\)"
    | _ => .ok (.char '*', n, rest)

end

def Regex.compile (d : Dialect) (pattern : String) : Except String Regex := do
  let cs := pattern.toList
  let ts ← reTokens d (cs.length + 1) cs none []
  let (r, _, rest) ← reAlt (4 * ts.length + 8) ts 1
  match rest with
  | [] => pure r
  | _ => throw "Unmatched ) or \\)"

/-- The inside of a bracket set after its `[` and any `^`, up to the `]` that
closes it, and what follows; `none` when nothing closes it. -/
def bracketBody (cs : List Char) : Option (List Char × List Char) :=
  let rec go : Nat → List Char → List Char → Bool → Option (List Char × List Char)
    | 0, _, _, _ => none
    | _ + 1, [], _, _ => none
    | f + 1, ']' :: rest, acc, first =>
      if first then go f rest (']' :: acc) false else some (acc.reverse, rest)
    | f + 1, '[' :: k :: rest, acc, _ =>
      if k == ':' || k == '.' || k == '=' then
        let name := rest.takeWhile (· != k)
        match rest.drop name.length with
        | _ :: ']' :: more => go f more ((']' :: k :: name.reverse) ++ k :: '[' :: acc) false
        | _ => go f (k :: rest) ('[' :: acc) false
      else go f (k :: rest) ('[' :: acc) false
    | f + 1, c :: rest, acc, _ => go f rest (c :: acc) false
  go (cs.length + 1) (match cs with
    | '^' :: rest => rest
    | _ => cs) [] true

def confusingBracket (pattern : String) : Bool :=
  let rec go : Nat → List Char → Bool
    | 0, _ => false
    | _ + 1, [] => false
    | f + 1, '\\' :: _ :: rest => go f rest
    | f + 1, '[' :: rest =>
      match bracketBody rest with
      | some (body, after) =>
        (body.head? == some ':' && body.getLast? == some ':' && body.any (· != ':') && !body.contains '-') ||
          go f after
      | none => false
    | f + 1, _ :: rest => go f rest
  go (pattern.length + 1) pattern.toList

def Regex.multiline : Regex → Regex
  | .lineStart => .alt [.lineStart, .look true false (.char '\n')]
  | .lineEnd => .alt [.lineEnd, .look false false (.char '\n')]
  | .seq parts => .seq (parts.map Regex.multiline)
  | .alt choices => .alt (choices.map Regex.multiline)
  | .repeat r lo hi => .repeat r.multiline lo hi
  | .lazy r lo hi => .lazy r.multiline lo hi
  | .look behind negative r => .look behind negative r.multiline
  | .group n r => .group n r.multiline
  | .atomic r => .atomic r.multiline
  | r => r

abbrev Captures := List (Nat × Nat × Nat)

def matchEnds (subject : Array Char) : Nat → Regex → Nat → Captures → List (Nat × Captures)
  | 0, _, _, _ => []
  | f + 1, r, pos, caps =>
    match r with
    | .char c => if subject[pos]? == some c then [(pos + 1, caps)] else []
    | .any =>
      match subject[pos]? with
      | some c => if Wide.isStray c then [] else [(pos + 1, caps)]
      | none => []
    | .set members =>
      match subject[pos]? with
      | some c => if members.holds c then [(pos + 1, caps)] else []
      | none => []
    | .lineStart => if pos == 0 then [(pos, caps)] else []
    | .lineEnd => if pos == subject.size then [(pos, caps)] else []
    | .seq parts =>
      parts.foldl (fun states part => states.flatMap fun (p, cs) => matchEnds subject f part p cs) [(pos, caps)]
    | .alt choices => choices.flatMap fun c => matchEnds subject f c pos caps
    | .repeat inner lo hi =>
      let more := if hi == some 0 then []
        else (matchEnds subject f inner pos caps).flatMap fun (p, cs) =>
          if p == pos then [(p, cs)]
          else
            let next := matchEnds subject f (.repeat inner (lo - 1) (hi.map (· - 1))) p cs
            if lo ≤ 1 then next.filter fun (q, cs') => q != p || cs' == cs else next
      let stop := if lo == 0 then [(pos, caps)] else []
      more ++ stop
    | .lazy inner lo hi =>
      let more := if hi == some 0 then []
        else (matchEnds subject f inner pos caps).flatMap fun (p, cs) =>
          if p == pos then [(p, cs)]
          else
            let next := matchEnds subject f (.lazy inner (lo - 1) (hi.map (· - 1))) p cs
            if lo ≤ 1 then next.filter fun (q, cs') => q != p || cs' == cs else next
      let stop := if lo == 0 then [(pos, caps)] else []
      stop ++ more
    | .look false negative inner =>
      match matchEnds subject f inner pos caps, negative with
      | [], true => [(pos, caps)]
      | (_, cs) :: _, false => [(pos, cs)]
      | _, _ => []
    | .look true negative inner =>
      let found := (List.range (pos + 1)).reverse.findSome? fun k =>
        ((matchEnds subject f inner k caps).find? (·.1 == pos)).map (·.2)
      match found, negative with
      | none, true => [(pos, caps)]
      | some cs, false => [(pos, cs)]
      | _, _ => []
    | .group n inner =>
      (matchEnds subject f inner pos caps).map fun (p, cs) => (p, (n, pos, p) :: cs.filter (·.1 != n))
    | .backref n =>
      match caps.find? (·.1 == n) with
      | some (_, s, e) =>
        let len := e - s
        if pos + len ≤ subject.size && (List.range len).all (fun i => subject[s + i]? == subject[pos + i]?) then
          [(pos + len, caps)]
        else []
      | none => [(pos, caps)]
    | .wordEdge => if wordBefore pos != wordAfter pos then [(pos, caps)] else []
    | .inWord => if wordBefore pos == wordAfter pos then [(pos, caps)] else []
    | .wordStart => if !wordBefore pos && wordAfter pos then [(pos, caps)] else []
    | .wordEnd => if wordBefore pos && !wordAfter pos then [(pos, caps)] else []
    | .atomic inner => (matchEnds subject f inner pos caps).take 1
    | .keepOut => [(pos, (0, pos, pos) :: caps.filter (·.1 != 0))]
where
  /-- Whether a word character stands just before a position. -/
  wordBefore (pos : Nat) : Bool := pos > 0 && (subject[pos - 1]?.map isWordChar).getD false
  /-- Whether a word character stands at a position. -/
  wordAfter (pos : Nat) : Bool := (subject[pos]?.map isWordChar).getD false

def Regex.searchFrom (r : Regex) (subject : Array Char) (start : Nat) : Option (Nat × Nat × Captures) :=
  let fuel := 4 * (subject.size + 2) * (subject.size + 2) + 64
  (List.range (subject.size + 1 - start)).findSome? fun k =>
    let pos := start + k
    match matchEnds subject fuel r pos [] with
    | [] => none
    | first :: rest =>
      let best := rest.foldl (fun b c => if c.1 > b.1 then c else b) first
      some (pos, best.1, best.2)

/-- The leftmost match in a text from a position on, and at that place the one the
expression prefers, as a backtracking matcher finds it. -/
def Regex.searchFirst (r : Regex) (subject : Array Char) (start : Nat) : Option (Nat × Nat × Captures) :=
  let fuel := 4 * (subject.size + 2) * (subject.size + 2) + 64
  (List.range (subject.size + 1 - start)).findSome? fun k =>
    let pos := start + k
    (matchEnds subject fuel r pos []).head?.map fun (e, cs) =>
      ((cs.find? (·.1 == 0)).elim pos (·.2.1), e, cs)

def Regex.matchPrefix (r : Regex) (subject : Array Char) : Option (Nat × Captures) :=
  match matchEnds subject (4 * (subject.size + 2) * (subject.size + 2) + 64) r 0 [] with
  | [] => none
  | first :: rest => some (rest.foldl (fun b c => if c.1 > b.1 then c else b) first)

def Regex.matchAt (r : Regex) (subject : Array Char) (pos : Nat) : Option (Nat × Captures) :=
  match matchEnds subject (4 * (subject.size + 2) * (subject.size + 2) + 64) r pos [] with
  | [] => none
  | first :: rest => some (rest.foldl (fun b c => if c.1 > b.1 then c else b) first)

def Regex.matches (r : Regex) (s : String) : Bool := (r.searchFrom s.toList.toArray 0).isSome

end Shell
end JuryCaptions
