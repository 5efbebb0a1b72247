import JuryCaptions.Shell.Arith
import JuryCaptions.System.Files
/-!
The conditions of `test`, also written `[ … ]`: `-o` joins alternatives, `-a`
more tightly conjunctions, `!` negates, parentheses group, and a primary is a
unary test, a binary comparison, or a word, true when not empty.
-/

namespace JuryCaptions
namespace Shell

inductive TestOp where
  | unary (s : String)
  | binary (s : String)
  | not
  | and
  | or
  | lparen
  | rparen
  deriving Repr, BEq, Inhabited

def unaryTests : List String :=
  ["-r", "-w", "-x", "-e", "-f", "-d", "-c", "-b", "-p", "-u", "-g", "-k", "-s", "-t", "-z", "-n", "-h",
   "-O", "-G", "-L", "-S"]

def binaryTests : List String :=
  ["=", "!=", "<", ">", "-eq", "-ne", "-ge", "-gt", "-le", "-lt", "-nt", "-ot", "-ef"]

def testOp? (s : String) : Option TestOp :=
  if unaryTests.contains s then some (.unary s)
  else if binaryTests.contains s then some (.binary s)
  else
    match s with
    | "!" => some .not
    | "-a" => some .and
    | "-o" => some .or
    | "(" => some .lparen
    | ")" => some .rparen
    | _ => none

def lexTest : List String → Option TestOp
  | [] => none
  | s :: rest =>
    match testOp? s with
    | some (.unary u) =>
      let operand := match rest with
        | [] => true
        | [_] => false
        | t :: _ => binaryTests.contains t
      if operand then none else some (.unary u)
    | some .lparen => if rest.isEmpty then none else some .lparen
    | o => o

def testNumber (s : String) : Except String Int :=
  let bad : Except String Int := .error ("Illegal number: " ++ s)
  let cs := s.toList.dropWhile isNumberBlank
  let (neg, body) := NumberText.takeSign cs
  let ds := body.takeWhile Char.isDigit
  if ds.isEmpty || !(body.drop ds.length).all isNumberBlank then bad
  else
    let v : Int := ds.foldl (fun n c => 10 * n + (c.toNat - '0'.toNat)) 0
    if neg then (if v > maxInt + 1 then bad else .ok (-v))
    else if v > maxInt then bad else .ok v

abbrev FileQuery := String → Option Files.Found

def characterDevices : List String :=
  ["/dev/null", "/dev/zero", "/dev/full", "/dev/random", "/dev/urandom", "/dev/tty"]

def unaryTest (found : FileQuery) (op a : String) : Except String Bool :=
  let q (a : String) : Option Entry := (found a).map (·.entry)
  match op with
  | "-z" => .ok a.isEmpty
  | "-n" => .ok !a.isEmpty
  | "-t" => (testNumber a).map fun _ => false
  | "-c" => .ok (characterDevices.contains a)
  | "-e" | "-r" | "-w" | "-O" | "-G" => .ok ((q a).isSome || characterDevices.contains a)
  | "-f" => .ok (match q a with
      | some (.file _ _) => true
      | some (.tool _) => true
      | _ => false)
  | "-d" => .ok (q a == some .dir)
  | "-x" => .ok (match q a with
      | some (.file _ x) => x
      | some _ => true
      | none => false)
  | "-s" => .ok (match q a with
      | some (.file t _) => !t.isEmpty
      | some _ => true
      | none => false)
  | "-u" => .ok ((found a).any (·.mode &&& 0o4000 != 0))
  | "-g" => .ok ((found a).any (·.mode &&& 0o2000 != 0))
  | "-k" => .ok ((found a).any (·.mode &&& 0o1000 != 0))
  | _ => .ok false

def binaryTest (q : FileQuery) (a op b : String) : Except String Bool :=
  let nums (rel : Int → Int → Bool) : Except String Bool := do
    let x ← testNumber a
    let y ← testNumber b
    return rel x y
  match op with
  | "=" => .ok (a == b)
  | "!=" => .ok (a != b)
  | "<" => .ok (decide (a < b))
  | ">" => .ok (decide (b < a))
  | "-eq" => nums fun x y => x == y
  | "-ne" => nums fun x y => x != y
  | "-lt" => nums fun x y => decide (x < y)
  | "-le" => nums fun x y => decide (x ≤ y)
  | "-gt" => nums fun x y => decide (x > y)
  | "-ge" => nums fun x y => decide (x ≥ y)
  | "-ef" => .ok (match q a, q b with
      | some x, some y => x.path == y.path
      | _, _ => false)
  | "-nt" => .ok (match q a, q b with
      | some x, some y => decide (x.stamp > y.stamp)
      | _, _ => false)
  | "-ot" => .ok (match q a, q b with
      | some x, some y => decide (x.stamp < y.stamp)
      | _, _ => false)
  | _ => .ok false

abbrev TestResult := Except String (Bool × List String)

mutual

def orTest (q : FileQuery) : Nat → List String → TestResult
  | 0, _ => .error "expression too deep"
  | f + 1, cur => do
    let (r, cur) ← andTest q f cur
    if lexTest cur.tail == some .or then
      let (r2, cur) ← orTest q f (cur.drop 2)
      return (r || r2, cur)
    else return (r, cur)

def andTest (q : FileQuery) : Nat → List String → TestResult
  | 0, _ => .error "expression too deep"
  | f + 1, cur => do
    let (r, cur) ← notTest q f cur
    if lexTest cur.tail == some .and then
      let (r2, cur) ← andTest q f (cur.drop 2)
      return (r && r2, cur)
    else return (r, cur)

def notTest (q : FileQuery) : Nat → List String → TestResult
  | 0, _ => .error "expression too deep"
  | f + 1, cur =>
    if lexTest cur == some .not then
      if cur.tail.isEmpty then .ok (true, cur)
      else do
        let (r, cur) ← notTest q f cur.tail
        return (!r, cur)
    else primaryTest q f cur

def primaryTest (q : FileQuery) : Nat → List String → TestResult
  | 0, _ => .error "expression too deep"
  | f + 1, cur =>
    match cur with
    | [] => .ok (false, [])
    | w :: rest =>
      match lexTest cur with
      | some .lparen =>
        if lexTest rest == some .rparen then .ok (false, rest)
        else do
          let (r, c) ← orTest q f rest
          if lexTest c.tail == some .rparen then return (r, c.tail)
          else throw "closing paren expected"
      | some (.unary u) =>
        match rest with
        | [] => .error (u ++ ": argument expected")
        | a :: _ => (unaryTest q u a).map fun r => (r, rest)
      | _ =>
        match lexTest rest, rest with
        | some (.binary b), _ :: more =>
          match more with
          | [] => .error (b ++ ": argument expected")
          | y :: _ => (binaryTest q w b y).map fun r => (r, more)
        | _, _ => .ok (!w.isEmpty, cur)

end

def conditionStatus (q : FileQuery) : Nat → Bool → List String → Except String Nat
  | 0, _, _ => .error "expression too deep"
  | f + 1, negated, args =>
    let finish (r : Bool) (cur : List String) : Except String Nat :=
      match cur with
      | a :: _ :: _ => .error (a ++ ": unexpected operator")
      | _ => .ok (if r == negated then 1 else 0)
    let evaluate (args : List String) : Except String Nat := do
      let (r, cur) ← orTest q (4 * args.length + 8) args
      finish r cur
    match args with
    | [] => .ok (if negated then 0 else 1)
    | [a, op, b] =>
      if binaryTests.contains op then do
        let r ← binaryTest q a op b
        finish r [b]
      else if a == "(" && b == ")" then evaluate [op]
      else if a == "!" then conditionStatus q f true [op, b]
      else evaluate args
    | [a, x, y, b] =>
      if a == "(" && b == ")" then evaluate [x, y]
      else if a == "!" then conditionStatus q f true [x, y, b]
      else evaluate args
    | _ => evaluate args

def testCommand (q : FileQuery) (bracket : Bool) (args : List String) : Except String Nat :=
  if bracket then
    match args.getLast? with
    | some last =>
      if last.startsWith "]" then conditionStatus q 8 false args.dropLast
      else .error "missing ]"
    | none => .error "missing ]"
  else conditionStatus q 8 false args

end Shell
end JuryCaptions
