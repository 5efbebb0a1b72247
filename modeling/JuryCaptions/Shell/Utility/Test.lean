import JuryCaptions.Shell.Condition
import JuryCaptions.Shell.Utility
/-!
The system's `test` program, also started as `[`, apart from the shell's
built-in one.
-/

namespace JuryCaptions
namespace Shell

def unaryLetters : List Char := "abcdefghknprstuwxzGLOSN".toList

def isUnaryTest (w : String) : Bool :=
  match w.toList with
  | ['-', c] => unaryLetters.contains c
  | _ => false

def isBinaryTest (w : String) : Bool :=
  ["=", "==", "!=", "<", ">", "-eq", "-ne", "-lt", "-le", "-gt", "-ge", "-nt", "-ot", "-ef"].contains w

def testInteger (w : String) : Except String Int :=
  let isBlank (c : Char) : Bool := c == ' ' || c == '\t'
  let cs := w.toList.dropWhile isBlank
  let (neg, body) := match cs with
    | '+' :: r => (false, r)
    | '-' :: r => (true, r)
    | r => (false, r)
  let ds := body.takeWhile Char.isDigit
  if ds.isEmpty || !(body.drop ds.length).all isBlank then .error ("invalid integer " ++ quoteText w)
  else
    let v : Int := ds.foldl (fun n d => 10 * n + (d.toNat - '0'.toNat)) 0
    .ok (if neg then -v else v)

/-- Reading the arguments of `test`: them, and the files it may ask about. -/
structure TestArgs where
  words : Array String
  query : FileQuery

abbrev TestStep := Except String (Bool × Nat)

namespace TestArgs

def at! (a : TestArgs) (i : Nat) : String := a.words[i]?.getD ""

def beyond (a : TestArgs) : TestStep :=
  .error ("missing argument after " ++ quoteText (a.words.back?.getD ""))

def unary (a : TestArgs) (pos : Nat) : TestStep :=
  let op := a.at! pos
  if pos + 1 ≥ a.words.size then a.beyond
  else
    let w := a.at! (pos + 1)
    let found := a.query w
    let entry : Option Entry := found.map (·.entry)
    let result : Except String Bool := match op.toList with
      | [_, 'z'] => .ok w.isEmpty
      | [_, 'n'] => .ok !w.isEmpty
      | [_, 't'] => (testInteger w).map fun _ => false
      | [_, 'c'] => .ok (characterDevices.contains w)
      | [_, 'd'] => .ok (entry == some .dir)
      | [_, 'f'] => .ok (match entry with
        | some (.file _ _) => true
        | some (.tool _) => true
        | _ => false)
      | [_, 'x'] => .ok (match entry with
        | some (.file _ x) => x
        | some _ => true
        | none => false)
      | [_, 's'] => .ok (match entry with
        | some (.file t _) => !t.isEmpty
        | some _ => true
        | none => false)
      | [_, 'u'] => .ok (found.any (·.mode &&& 0o4000 != 0))
      | [_, 'g'] => .ok (found.any (·.mode &&& 0o2000 != 0))
      | [_, 'k'] => .ok (found.any (·.mode &&& 0o1000 != 0))
      | [_, c] =>
        if "aerwOG".toList.contains c then .ok (entry.isSome || characterDevices.contains w) else .ok false
      | _ => .ok false
    result.map fun r => (r, pos + 2)

def binary (a : TestArgs) (pos : Nat) (lengthLeft : Bool) : TestStep :=
  let pos := if lengthLeft then pos + 1 else pos
  let op := pos + 1
  let lengthRight := op + 2 < a.words.size && a.at! (op + 1) == "-l"
  let (left, opWord, right) :=
    if lengthRight then (a.at! pos, a.at! op, a.at! (op + 2)) else (a.at! pos, a.at! op, a.at! (op + 1))
  let after := if lengthRight then pos + 4 else pos + 3
  let integer (w : String) (isLength : Bool) : Except String Int :=
    if isLength then .ok w.length else testInteger w
  let stamps : Option Files.Found × Option Files.Found := (a.query left, a.query right)
  match opWord with
  | "-eq" | "-ne" | "-lt" | "-le" | "-gt" | "-ge" => do
    let x ← integer left lengthLeft
    let y ← integer right lengthRight
    let r := match opWord with
      | "-eq" => x == y
      | "-ne" => x != y
      | "-lt" => decide (x < y)
      | "-le" => decide (x ≤ y)
      | "-gt" => decide (x > y)
      | _ => decide (x ≥ y)
    return (r, after)
  | "-nt" | "-ot" | "-ef" =>
    if lengthLeft || lengthRight then .error (opWord ++ " does not accept -l")
    else
      let r := match opWord, stamps with
        | "-nt", (some x, some y) => decide (x.stamp > y.stamp)
        | "-nt", (some _, none) => true
        | "-ot", (some x, some y) => decide (x.stamp < y.stamp)
        | "-ot", (none, some _) => true
        | "-ef", (some x, some y) => x.path == y.path
        | _, _ => false
      .ok (r, after)
  | "=" | "==" => .ok (left == right, after)
  | "!=" => .ok (left != right, after)
  | "<" => .ok (decide (left < right), after)
  | ">" => .ok (decide (right < left), after)
  | _ => .error (quoteText opWord ++ ": unknown binary operator")

end TestArgs

mutual

def testCounted (a : TestArgs) : Nat → Nat → Nat → TestStep
  | 0, _, _ => .error "expression too deep"
  | f + 1, pos, count =>
    let w (i : Nat) : String := a.at! (pos + i)
    match count with
    | 1 => .ok (!(w 0).isEmpty, pos + 1)
    | 2 =>
      if w 0 == "!" then .ok ((w 1).isEmpty, pos + 2)
      else if (w 0).startsWith "-" && (w 0).length == 2 then
        if isUnaryTest (w 0) then a.unary pos
        else .error (quoteText (w 0) ++ ": unary operator expected")
      else a.beyond
    | 3 =>
      if isBinaryTest (w 1) then a.binary pos false
      else if w 0 == "!" then (testCounted a f (pos + 1) 2).map fun (r, p) => (!r, p)
      else if w 0 == "(" && w 2 == ")" then .ok (!(w 1).isEmpty, pos + 3)
      else if w 1 == "-a" || w 1 == "-o" then testOr a f pos
      else .error (quoteText (w 1) ++ ": binary operator expected")
    | 4 =>
      if w 0 == "!" then (testCounted a f (pos + 1) 3).map fun (r, p) => (!r, p)
      else if w 0 == "(" && w 3 == ")" then
        (testCounted a f (pos + 1) 2).map fun (r, p) => (r, p + 1)
      else testOr a f pos
    | _ => if pos ≥ a.words.size then a.beyond else testOr a f pos

def testOr (a : TestArgs) : Nat → Nat → TestStep
  | 0, _ => .error "expression too deep"
  | f + 1, pos => do
    let (r, pos) ← testAnd a f pos
    if a.at! pos == "-o" && pos < a.words.size then
      let (r2, pos) ← testOr a f (pos + 1)
      return (r || r2, pos)
    else return (r, pos)

def testAnd (a : TestArgs) : Nat → Nat → TestStep
  | 0, _ => .error "expression too deep"
  | f + 1, pos => do
    let (r, pos) ← testTerm a f pos
    if a.at! pos == "-a" && pos < a.words.size then
      let (r2, pos) ← testAnd a f (pos + 1)
      return (r && r2, pos)
    else return (r, pos)

def testTerm (a : TestArgs) : Nat → Nat → TestStep
  | 0, _ => .error "expression too deep"
  | f + 1, pos =>
    let size := a.words.size
    if pos < size && a.at! pos == "!" then
      if pos + 1 ≥ size then a.beyond
      else (testTerm a f (pos + 1)).map fun (r, p) => (!r, p)
    else if pos ≥ size then a.beyond
    else if a.at! pos == "(" then
      if pos + 1 ≥ size then a.beyond
      else
        let start := pos + 1
        let found := (List.range 4).find? fun k => start + k + 1 < size && a.at! (start + k + 1) == ")"
        let count := match found with
          | some k => k + 1
          | none => size - start
        match testCounted a f start count with
        | .error e => .error e
        | .ok (r, p) =>
          if p ≥ size then .error (quoteText ")" ++ " expected")
          else if a.at! p != ")" then .error (quoteText ")" ++ " expected, found " ++ quoteText (a.at! p))
          else .ok (r, p + 1)
    else if pos + 4 ≤ size && a.at! pos == "-l" && isBinaryTest (a.at! (pos + 2)) then a.binary pos true
    else if pos + 3 ≤ size && isBinaryTest (a.at! (pos + 1)) then a.binary pos false
    else if (a.at! pos).startsWith "-" && (a.at! pos).length == 2 then
      if isUnaryTest (a.at! pos) then a.unary pos
      else .error (quoteText (a.at! pos) ++ ": unary operator expected")
    else .ok (!(a.at! pos).isEmpty, pos + 1)

end

def systemTest (q : FileQuery) (bracket : Bool) (args : List String) : Except String Nat :=
  let body : Except String (List String) :=
    if bracket then
      if args.getLast? == some "]" then .ok args.dropLast else .error ("missing " ++ quoteText "]")
    else .ok args
  match body with
  | .error e => .error e
  | .ok [] => .ok 1
  | .ok words =>
    let a : TestArgs := { words := words.toArray, query := q }
    match testCounted a (4 * words.length + 8) 0 words.length with
    | .error e => .error e
    | .ok (r, p) =>
      if p < words.length then .error ("extra argument " ++ quoteText (a.at! p))
      else .ok (if r then 0 else 1)

end Shell
end JuryCaptions
