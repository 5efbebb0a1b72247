/-!
Tokens of text with markup, read the way HTML text is tokenized. A tag ends at
the first `>` outside a quoted value; a raw-text element's text runs to its
closing tag, and `script` text may hide one inside `<!--` … `-->`.
-/

namespace JuryCaptions
namespace Markup

inductive Token where
  /-- Text, as written. -/
  | text (raw : String)
  /-- An opening tag, as written from `<` to `>`. -/
  | opening (raw : String)
  /-- An opening tag that closes itself. -/
  | selfClosing
  /-- A closing tag. -/
  | closing
  /-- A comment or declaration. -/
  | comment
  deriving Repr, BEq, Inhabited

def isSpace (c : Char) : Bool := c = ' ' || c = '\n' || c = '\r' || c = '\t' || c = '\x0c'

def isLetter (c : Char) : Bool := ('a' ≤ c && c ≤ 'z') || ('A' ≤ c && c ≤ 'Z')

/-- An ASCII letter in lower case; other characters as they are. -/
def lowerAscii (c : Char) : Char := if 'A' ≤ c ∧ c ≤ 'Z' then Char.ofNat (c.toNat + 32) else c

/-- The text after the next `>`, or nothing when there is none. -/
def afterClose (cs : List Char) : List Char :=
  match cs.dropWhile (· ≠ '>') with
  | _ :: rest => rest
  | [] => []

/-- Reads an attribute value after its key: `= value`, quoted or not, or
nothing. The text after it, or `none` when the text ends first. -/
def attrValue (cs : List Char) : Option (List Char) :=
  match cs.dropWhile isSpace with
  | [] => none
  | '/' :: rest => some rest
  | '=' :: rest =>
    match rest.dropWhile isSpace with
    | [] => none
    | '>' :: r => some ('>' :: r)
    | q :: r =>
      if q = '"' ∨ q = '\'' then
        match r.dropWhile (· ≠ q) with
        | _ :: after => some after
        | [] => none
      else
        match r.dropWhile fun c => !(isSpace c || c = '>') with
        | [] => none
        | after => some after
  | other => some other

/-- Reads an attribute key: an `=` may open it, and a blank, `/`, `>` or a
later `=` ends it. -/
def attrKey (cs : List Char) : List Char :=
  let stop (c : Char) : Bool := isSpace c || c = '/' || c = '>' || c = '='
  match cs with
  | '=' :: rest => rest.dropWhile (!stop ·)
  | _ => cs.dropWhile (!stop ·)

/-- Reads the attributes of a tag up to the `>` that ends it; the text after
it, or `none` when the text ends first. -/
def attributes : Nat → List Char → Option (List Char)
  | 0, _ => none
  | f + 1, cs =>
    match cs.dropWhile isSpace with
    | [] => none
    | '>' :: rest => some rest
    | cs' => (attrValue (attrKey cs')).bind (attributes f)

/-- Reads a tag from its first letter: its name and the text after its `>`, or
`none` when the text ends inside it. -/
def readTag (cs : List Char) : Option (List Char × List Char) :=
  let name := cs.takeWhile fun c => !(isSpace c || c = '/' || c = '>')
  let rest := cs.drop name.length
  if rest.isEmpty then none else (attributes (rest.length + 1) rest).map (name, ·)

/-- Whether the text starts with an element's name, in any case, and a blank,
`/` or `>` after it: the rest of a closing tag of that element after `</`. -/
def closesElement (name : List Char) (cs : List Char) : Bool :=
  (cs.take name.length).map lowerAscii == name &&
    match cs.drop name.length with
    | c :: _ => isSpace c || c = '/' || c = '>'
    | [] => false

/-- The length of raw text up to the closing tag of an element, or of all of
it when there is none. -/
def rawLength (name : List Char) : List Char → Nat
  | [] => 0
  | '<' :: '/' :: rest => if closesElement name rest then 0 else 2 + rawLength name rest
  | _ :: rest => 1 + rawLength name rest

inductive ScriptState where
  | data
  | lessThan
  | escapeStart
  | escapeStartDash
  | escaped
  | escapedDash
  | escapedDashDash
  | escapedLessThan
  | doubleEscaped
  | doubleEscapedDash
  | doubleEscapedDashDash
  | doubleEscapedLessThan
  deriving Repr, BEq

/-- The length of a script's text, counting from `n` characters read. -/
def scriptLength : Nat → ScriptState → List Char → Nat → Nat
  | 0, _, _, n => n
  | _ + 1, _, [], n => n
  | f + 1, st, c :: rest, n =>
    let script := "script".toList
    match st with
    | .data => scriptLength f (if c = '<' then .lessThan else .data) rest (n + 1)
    | .lessThan =>
      if c = '/' then
        if closesElement script rest then n - 1 else scriptLength f .data rest (n + 1)
      else if c = '!' then scriptLength f .escapeStart rest (n + 1)
      else scriptLength f .data (c :: rest) n
    | .escapeStart =>
      if c = '-' then scriptLength f .escapeStartDash rest (n + 1) else scriptLength f .data (c :: rest) n
    | .escapeStartDash =>
      if c = '-' then scriptLength f .escapedDashDash rest (n + 1) else scriptLength f .data (c :: rest) n
    | .escaped =>
      scriptLength f (if c = '-' then .escapedDash else if c = '<' then .escapedLessThan else .escaped)
        rest (n + 1)
    | .escapedDash =>
      scriptLength f (if c = '-' then .escapedDashDash else if c = '<' then .escapedLessThan else .escaped)
        rest (n + 1)
    | .escapedDashDash =>
      scriptLength f (if c = '-' then .escapedDashDash else if c = '<' then .escapedLessThan
        else if c = '>' then .data else .escaped) rest (n + 1)
    | .escapedLessThan =>
      if c = '/' then
        if closesElement script rest then n - 1 else scriptLength f .escaped rest (n + 1)
      else if isLetter c then
        if closesElement script (c :: rest) then
          scriptLength f .doubleEscaped ((c :: rest).drop (script.length + 1)) (n + script.length + 1)
        else scriptLength f .escaped (c :: rest) n
      else scriptLength f .data (c :: rest) n
    | .doubleEscaped =>
      scriptLength f (if c = '-' then .doubleEscapedDash else if c = '<' then .doubleEscapedLessThan
        else .doubleEscaped) rest (n + 1)
    | .doubleEscapedDash =>
      scriptLength f (if c = '-' then .doubleEscapedDashDash else if c = '<' then .doubleEscapedLessThan
        else .doubleEscaped) rest (n + 1)
    | .doubleEscapedDashDash =>
      scriptLength f (if c = '-' then .doubleEscapedDashDash else if c = '<' then .doubleEscapedLessThan
        else if c = '>' then .data else .doubleEscaped) rest (n + 1)
    | .doubleEscapedLessThan =>
      if c = '/' then
        if closesElement script rest then
          scriptLength f .escaped (rest.drop (script.length + 1)) (n + script.length + 2)
        else scriptLength f .doubleEscaped rest (n + 1)
      else scriptLength f .doubleEscaped (c :: rest) n

def rawElements : List String :=
  ["iframe", "noembed", "noframes", "noscript", "plaintext", "script", "style", "textarea", "title", "xmp"]

/-- Where the end of a comment after `<!--` leaves the text: `dashes` counts the
dashes just read, and `beginning` holds until anything else is read. -/
def commentEnd : Nat → List Char → Nat → Bool → List Char
  | 0, cs, _, _ => cs
  | _ + 1, [], _, _ => []
  | f + 1, c :: rest, dashes, beginning =>
    if c = '-' then commentEnd f rest (dashes + 1) beginning
    else if c = '>' ∧ (dashes ≥ 2 ∨ beginning) then rest
    else if c = '!' ∧ dashes ≥ 2 then
      match rest with
      | [] => []
      | '>' :: after => after
      | '-' :: after => commentEnd f after 1 false
      | _ :: after => commentEnd f after 0 false
    else commentEnd f rest 0 false

def textLength : List Char → Nat
  | '<' :: c :: rest =>
    if isLetter c || c = '/' || c = '!' || c = '?' then 0 else 1 + textLength (c :: rest)
  | _ :: rest => 1 + textLength rest
  | [] => 0

/-- Reads markup at a `<`: the token, the text after it and the raw text
element it opens, if any; `none` when the text ends inside a tag. -/
def markup (cs : List Char) : Option (Token × List Char × Option String) :=
  match cs with
  | '<' :: c :: rest =>
    if isLetter c then
      (readTag (c :: rest)).map fun (name, after) =>
        let written := cs.take (cs.length - after.length)
        let lower := String.ofList (name.map lowerAscii)
        let raw := if rawElements.contains lower then some lower else none
        let closed := written.length ≥ 2 && written[written.length - 2]? == some '/'
        (if closed then .selfClosing else .opening (String.ofList written), after, raw)
    else if c = '/' then
      match rest with
      | [] => some (.text "</", [], none)
      | '>' :: after => some (.comment, after, none)
      | d :: _ =>
        if isLetter d then (readTag rest).map fun (_, after) => (.closing, after, none)
        else some (.comment, afterClose rest, none)
    else if c = '!' then
      match rest with
      | '-' :: '-' :: after => some (.comment, commentEnd (after.length + 1) after 0 true, none)
      | _ => some (.comment, afterClose rest, none)
    else some (.comment, afterClose rest, none)
  | _ => none

/-- The next token and what follows it, after a raw text element's opening tag
when `raw` names one; `none` at the end of the text or inside a tag. -/
def next (cs : List Char) (raw : Option String) : Option (Token × List Char × Option String) :=
  let rawText : Nat := match raw with
    | some "plaintext" => cs.length
    | some "script" => scriptLength (2 * cs.length + 2) .data cs 0
    | some name => rawLength name.toList cs
    | none => 0
  if rawText > 0 then some (.text (String.ofList (cs.take rawText)), cs.drop rawText, none)
  else
    let n := textLength cs
    if n > 0 then some (.text (String.ofList (cs.take n)), cs.drop n, none) else markup cs

def tokens (s : String) : List Token :=
  go (s.length + 1) s.toList none
where
  /-- Reads tokens with `fuel` bounding their number. -/
  go : Nat → List Char → Option String → List Token
  | 0, _, _ => []
  | f + 1, cs, raw =>
    match next cs raw with
    | some (t, rest, raw') => t :: go f rest raw'
    | none => []

end Markup
end JuryCaptions
