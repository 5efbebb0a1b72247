import JuryCaptions.Number.Read
/-!
Arithmetic expansion: evaluating `$((…))` expressions.

Values are signed 64-bit integers that wrap around.
-/

namespace JuryCaptions
namespace Shell

inductive ArithToken where
  | num (n : Int)
  | var (name : String)
  | op (s : String)
  /-- A character that starts no token. -/
  | bad
  deriving Repr, BEq, Inhabited

def wrapInt (x : Int) : Int :=
  (x + 9223372036854775808) % 18446744073709551616 - 9223372036854775808

def maxInt : Int := 9223372036854775807

def digitIn (base : Nat) (c : Char) : Option Nat :=
  let d := if c.isDigit then some (c.toNat - '0'.toNat)
    else if 'a' ≤ c ∧ c ≤ 'z' then some (c.toNat - 'a'.toNat + 10)
    else if 'A' ≤ c ∧ c ≤ 'Z' then some (c.toNat - 'A'.toNat + 10)
    else none
  d.bind fun v => if v < base then some v else none

def digitsIn (base : Nat) (cs : List Char) : Int × Nat × List Char :=
  let ds := cs.takeWhile fun c => (digitIn base c).isSome
  let v := ds.foldl (fun acc c => acc * base + ((digitIn base c).getD 0)) 0
  (min (v : Int) maxInt, ds.length, cs.drop ds.length)

/-- Reads an unsigned number at the front of a text, its base told by its
prefix: the value and what follows, or `none` when no digit is read. -/
def readNumberPrefix (cs : List Char) : Option (Int × List Char) :=
  match cs with
  | '0' :: x :: rest =>
    if (x = 'x' ∨ x = 'X') ∧ (rest.head?.bind (digitIn 16)).isSome then
      let (v, _, after) := digitsIn 16 rest
      some (v, after)
    else
      let (v, _, after) := digitsIn 8 (x :: rest)
      some (v, after)
  | ['0'] => some (0, [])
  | c :: _ =>
    if c.isDigit then
      let (v, _, after) := digitsIn 10 cs
      some (v, after)
    else none
  | [] => none

def isNumberBlank (c : Char) : Bool := c = ' ' || c = '\t' || c = '\n' || c = '\r' || c = '\x0b' || c = '\x0c'

/-- The value of a variable in an expression: a number, possibly signed and
with blanks around it, or nothing at all; `none` for anything else. -/
def variableNumber (s : String) : Option Int :=
  let cs := s.toList.dropWhile isNumberBlank
  let (neg, body) := NumberText.takeSign cs
  match readNumberPrefix body with
  | some (v, after) => if after.all isNumberBlank then some (if neg then -v else v) else none
  | none => if s.toList.all isNumberBlank then some 0 else none

def arithOperators : List String :=
  ["<<=", ">>=", "<=", ">=", "==", "!=", "&&", "||", "<<", ">>", "*=", "/=", "%=", "+=", "-=", "&=", "^=",
   "|=", "+", "-", "*", "/", "%", "<", ">", "=", "!", "~", "&", "^", "|", "?", ":", "(", ")"]

def arithTokens : Nat → List Char → List ArithToken
  | 0, _ => []
  | _ + 1, [] => []
  | f + 1, c :: rest =>
    if c = ' ' ∨ c = '\t' ∨ c = '\n' then arithTokens f rest
    else if c.isDigit then
      match readNumberPrefix (c :: rest) with
      | some (v, after) => .num v :: arithTokens f after
      | none => [.bad]
    else if c.isAlpha ∨ c = '_' then
      let name := (c :: rest).takeWhile fun d => d.isAlphanum || d = '_'
      .var (String.ofList name) :: arithTokens f ((c :: rest).drop name.length)
    else
      match arithOperators.find? fun o => ((c :: rest).take o.length) == o.toList with
      | some o => .op o :: arithTokens f ((c :: rest).drop o.length)
      | none => [.bad]

def binaryLevels : List (List String) :=
  [["*", "/", "%"], ["+", "-"], ["<<", ">>"], ["<", "<=", ">", ">="], ["==", "!="], ["&"], ["^"], ["|"]]

def assignOperators : List (String × String) :=
  [("=", ""), ("*=", "*"), ("/=", "/"), ("%=", "%"), ("+=", "+"), ("-=", "-"), ("<<=", "<<"), (">>=", ">>"),
   ("&=", "&"), ("^=", "^"), ("|=", "|")]

def ofBool (b : Bool) : Int := if b then 1 else 0

def shiftBy (a b : Int) (left : Bool) : Int :=
  let k := (b % 64).toNat
  if left then wrapInt (a * (Nat.pow 2 k : Nat)) else a.fdiv (Nat.pow 2 k : Nat)

def toBits (a : Int) : Nat := (a % 18446744073709551616).toNat

def ofBits (n : Nat) : Int := wrapInt n

inductive ArithFault where
  /-- A mistake the shell reports, with its message. -/
  | message (text : String)
  /-- The least integer divided by -1, which the processor refuses with a
  floating point exception that kills the shell. -/
  | trap
  deriving Repr, Inhabited

def applyBinary (op : String) (a b : Int) : Except ArithFault Int :=
  match op with
  | "*" => .ok (wrapInt (a * b))
  | "/" =>
    if b = 0 then .error (.message "division by zero")
    else if a = -9223372036854775808 ∧ b = -1 then .error .trap
    else .ok (wrapInt (a.tdiv b))
  | "%" =>
    if b = 0 then .error (.message "division by zero")
    else if a = -9223372036854775808 ∧ b = -1 then .error .trap
    else .ok (a.tmod b)
  | "+" => .ok (wrapInt (a + b))
  | "-" => .ok (wrapInt (a - b))
  | "<<" => .ok (shiftBy a b true)
  | ">>" => .ok (shiftBy a b false)
  | "<" => .ok (ofBool (a < b))
  | "<=" => .ok (ofBool (a ≤ b))
  | ">" => .ok (ofBool (a > b))
  | ">=" => .ok (ofBool (a ≥ b))
  | "==" => .ok (ofBool (a == b))
  | "!=" => .ok (ofBool (a != b))
  | "&" => .ok (ofBits (toBits a &&& toBits b))
  | "^" => .ok (ofBits (toBits a ^^^ toBits b))
  | "|" => .ok (ofBits (toBits a ||| toBits b))
  | _ => .error (.message "expecting EOF")

abbrev ArithResult := Except ArithFault (Int × List ArithToken × List (String × Int))

def varValue (vars : String → Option String) (assigned : List (String × Int)) (name : String) :
    Except ArithFault Int :=
  match assigned.find? (·.1 == name) with
  | some (_, v) => .ok v
  | none =>
    match vars name with
    | none => .ok 0
    | some s =>
      match variableNumber s with
      | some v => .ok (wrapInt v)
      | none => .error (.message ("Illegal number: " ++ s))

mutual

def assignment (vars : String → Option String) : Nat → List ArithToken → Bool → List (String × Int) → ArithResult
  | 0, _, _, _ => .error (.message "expression too deep")
  | f + 1, .var name :: .op o :: rest, noeval, st =>
    match assignOperators.find? (·.1 == o) with
    | some (_, bin) => do
      let (r, rest, st) ← assignment vars f rest noeval st
      if noeval then return (r, rest, st)
      let r ← if bin.isEmpty then pure r else do
        let old ← varValue vars st name
        applyBinary bin old r
      return (r, rest, (name, r) :: st.filter (·.1 != name))
    | none => conditional vars f (.var name :: .op o :: rest) noeval st
  | f + 1, ts, noeval, st => conditional vars f ts noeval st

def conditional (vars : String → Option String) : Nat → List ArithToken → Bool → List (String × Int) → ArithResult
  | 0, _, _, _ => .error (.message "expression too deep")
  | f + 1, ts, noeval, st => do
    let (a, rest, st) ← orElse vars f ts noeval st
    match rest with
    | .op "?" :: more =>
      let (b, rest, st) ← assignment vars f more (noeval || a == 0) st
      match rest with
      | .op ":" :: more =>
        let (c, rest, st) ← conditional vars f more (noeval || a != 0) st
        return (if a != 0 then b else c, rest, st)
      | _ => throw (.message "expecting ':'")
    | _ => return (a, rest, st)

def orElse (vars : String → Option String) : Nat → List ArithToken → Bool → List (String × Int) → ArithResult
  | 0, _, _, _ => .error (.message "expression too deep")
  | f + 1, ts, noeval, st => do
    let (a, rest, st) ← andThen vars f ts noeval st
    match rest with
    | .op "||" :: more =>
      let (b, rest, st) ← orElse vars f more (noeval || a != 0) st
      return (ofBool (a != 0 || b != 0), rest, st)
    | _ => return (a, rest, st)

def andThen (vars : String → Option String) : Nat → List ArithToken → Bool → List (String × Int) → ArithResult
  | 0, _, _, _ => .error (.message "expression too deep")
  | f + 1, ts, noeval, st => do
    let (a, rest, st) ← binary vars f (binaryLevels.length - 1) ts noeval st
    match rest with
    | .op "&&" :: more =>
      let (b, rest, st) ← andThen vars f more (noeval || a == 0) st
      return (ofBool (a != 0 && b != 0), rest, st)
    | _ => return (a, rest, st)

def binary (vars : String → Option String) : Nat → Nat → List ArithToken → Bool → List (String × Int) → ArithResult
  | 0, _, _, _, _ => .error (.message "expression too deep")
  | f + 1, level, ts, noeval, st => do
    let (a, rest, st) ← operand vars f level ts noeval st
    binaryRest vars f level a rest noeval st

def operand (vars : String → Option String) : Nat → Nat → List ArithToken → Bool → List (String × Int) → ArithResult
  | 0, _, _, _, _ => .error (.message "expression too deep")
  | f + 1, 0, ts, noeval, st => primary vars f ts noeval st
  | f + 1, level + 1, ts, noeval, st => binary vars f level ts noeval st

def binaryRest (vars : String → Option String) : Nat → Nat → Int → List ArithToken → Bool → List (String × Int) →
    ArithResult
  | 0, _, _, _, _, _ => .error (.message "expression too deep")
  | f + 1, level, a, .op o :: more, noeval, st =>
    if (binaryLevels.getD level []).contains o then do
      let (b, rest, st) ← operand vars f level more noeval st
      let v ← if noeval then pure b else applyBinary o a b
      binaryRest vars f level v rest noeval st
    else return (a, .op o :: more, st)
  | _ + 1, _, a, ts, _, st => return (a, ts, st)

def primary (vars : String → Option String) : Nat → List ArithToken → Bool → List (String × Int) → ArithResult
  | 0, _, _, _ => .error (.message "expression too deep")
  | f + 1, ts, noeval, st =>
    match ts with
    | .op "(" :: more => do
      let (v, rest, st) ← assignment vars f more noeval st
      match rest with
      | .op ")" :: after => return (v, after, st)
      | _ => throw (.message "expecting ')'")
    | .num n :: more => return (n, more, st)
    | .var name :: more => do
      let v ← if noeval then pure 0 else varValue vars st name
      return (v, more, st)
    | .op "+" :: more => primary vars f more noeval st
    | .op "-" :: more => do
      let (v, rest, st) ← primary vars f more noeval st
      return (wrapInt (-v), rest, st)
    | .op "!" :: more => do
      let (v, rest, st) ← primary vars f more noeval st
      return (ofBool (v == 0), rest, st)
    | .op "~" :: more => do
      let (v, rest, st) ← primary vars f more noeval st
      return (wrapInt (-v - 1), rest, st)
    | _ => throw (.message "expecting primary")

end

/-- Evaluates an expression with `vars`: its value and the variables it assigned,
latest first, or the failure. -/
def evalArith (vars : String → Option String) (expr : String) : Except ArithFault (Int × List (String × Int)) :=
  let fail (why : String) : String :=
    if why.startsWith "Illegal number" then why
    else "arithmetic expression: " ++ why ++ ": \"" ++ expr ++ "\""
  if expr.toList.all fun c => c = ' ' ∨ c = '\t' ∨ c = '\n' then .ok (0, [])
  else
    let toks := arithTokens (expr.length + 1) expr.toList
    match assignment vars (32 * toks.length + 64) toks false [] with
    | .error (.message e) => .error (.message (fail e))
    | .error .trap => .error .trap
    | .ok (v, [], st) => .ok (v, st)
    | .ok (_, _, _) => .error (.message (fail "expecting EOF"))

end Shell
end JuryCaptions
