import JuryCaptions.Shell.Utility
import JuryCaptions.Shell.Regex
import JuryCaptions.Text.Wide
/-!
Evaluating expressions: `expr`.

Each argument is one token.
-/

namespace JuryCaptions
namespace Shell

def exprInt (s : String) : Option Int :=
  match s.toList with
  | '-' :: ds => if !ds.isEmpty && ds.all Char.isDigit then some (-(decimalNat ds : Int)) else none
  | ds => if !ds.isEmpty && ds.all Char.isDigit then some (decimalNat ds : Int) else none
where
  decimalNat (ds : List Char) : Nat := ds.foldl (fun n d => 10 * n + (d.toNat - '0'.toNat)) 0

def exprNull (s : String) : Bool := s.isEmpty || exprInt s == some 0

inductive ExprFault where
  /-- The arguments ended where a value was needed. -/
  | missingArgument
  /-- The arguments ended where `)` was needed. -/
  | expectingAfter
  | expectingInstead (token : String)
  | unexpected (token : String)
  /-- A closing parenthesis where a value was needed. -/
  | unexpectedClose
  | nonInteger
  | divisionByZero
  | badPattern (message : String)
  deriving Inhabited

def ExprFault.message (last : String) : ExprFault → String
  | .missingArgument => "syntax error: missing argument after " ++ quoteText last
  | .expectingAfter => "syntax error: expecting ')' after " ++ quoteText last
  | .expectingInstead t => "syntax error: expecting ')' instead of " ++ quoteText t
  | .unexpected t => "syntax error: unexpected argument " ++ quoteText t
  | .unexpectedClose => "syntax error: unexpected ')'"
  | .nonInteger => "non-integer argument"
  | .divisionByZero => "division by zero"
  | .badPattern m => m

abbrev ExprResult := Except ExprFault (String × List String)

def exprRegexMatch (s re : String) : Except ExprFault String :=
  match Regex.compile { lenient := true } (String.ofList (Wide.decode re)) with
  | .error e => .error (.badPattern e)
  | .ok r =>
    let grouped := (re.splitOn "\\(").length > 1
    let cs := Wide.decode s
    match r.matchPrefix cs.toArray with
    | some (e, caps) =>
      if grouped then
        match caps.find? (·.1 == 1) with
        | some (_, a, b) => .ok (Wide.encode ((cs.drop a).take (b - a)))
        | none => .ok ""
      else .ok (toString e)
    | none => .ok (if grouped then "" else "0")

def exprArith (op a b : String) : Except ExprFault String :=
  match exprInt a, exprInt b with
  | some x, some y =>
    if op == "+" then .ok (toString (x + y))
    else if op == "-" then .ok (toString (x - y))
    else if op == "*" then .ok (toString (x * y))
    else if y == 0 then .error .divisionByZero
    else if op == "/" then .ok (toString (x.tdiv y))
    else .ok (toString (x.tmod y))
  | _, _ => .error .nonInteger

def exprCompareValues (op a b : String) : String :=
  let order : Ordering := match exprInt a, exprInt b with
    | some x, some y => compare x y
    | _, _ => compare a b
  let holds : Bool := match op with
    | "<" => order == .lt
    | "<=" => order != .gt
    | "=" | "==" => order == .eq
    | "!=" => order != .eq
    | ">=" => order != .lt
    | _ => order == .gt
  if holds then "1" else "0"

mutual

def exprOr : Nat → List String → ExprResult
  | 0, _ => .error .missingArgument
  | f + 1, ts => do
    let (a, rest) ← exprAnd f ts
    exprOrRest f a rest

def exprOrRest : Nat → String → List String → ExprResult
  | 0, a, ts => .ok (a, ts)
  | f + 1, a, "|" :: more => do
    let (b, rest) ← exprAnd f more
    exprOrRest f (if !exprNull a then a else if !exprNull b then b else "0") rest
  | _ + 1, a, ts => .ok (a, ts)

def exprAnd : Nat → List String → ExprResult
  | 0, _ => .error .missingArgument
  | f + 1, ts => do
    let (a, rest) ← exprCompare f ts
    exprAndRest f a rest

def exprAndRest : Nat → String → List String → ExprResult
  | 0, a, ts => .ok (a, ts)
  | f + 1, a, "&" :: more => do
    let (b, rest) ← exprCompare f more
    exprAndRest f (if !exprNull a && !exprNull b then a else "0") rest
  | _ + 1, a, ts => .ok (a, ts)

def exprCompare : Nat → List String → ExprResult
  | 0, _ => .error .missingArgument
  | f + 1, ts => do
    let (a, rest) ← exprSum f ts
    exprCompareRest f a rest

def exprCompareRest : Nat → String → List String → ExprResult
  | 0, a, ts => .ok (a, ts)
  | f + 1, a, op :: more =>
    if ["<", "<=", "=", "==", "!=", ">=", ">"].contains op then do
      let (b, rest) ← exprSum f more
      exprCompareRest f (exprCompareValues op a b) rest
    else .ok (a, op :: more)
  | _ + 1, a, [] => .ok (a, [])

def exprSum : Nat → List String → ExprResult
  | 0, _ => .error .missingArgument
  | f + 1, ts => do
    let (a, rest) ← exprProduct f ts
    exprSumRest f a rest

def exprSumRest : Nat → String → List String → ExprResult
  | 0, a, ts => .ok (a, ts)
  | f + 1, a, op :: more =>
    if op == "+" || op == "-" then do
      let (b, rest) ← exprProduct f more
      exprSumRest f (← exprArith op a b) rest
    else .ok (a, op :: more)
  | _ + 1, a, [] => .ok (a, [])

def exprProduct : Nat → List String → ExprResult
  | 0, _ => .error .missingArgument
  | f + 1, ts => do
    let (a, rest) ← exprMatch f ts
    exprProductRest f a rest

def exprProductRest : Nat → String → List String → ExprResult
  | 0, a, ts => .ok (a, ts)
  | f + 1, a, op :: more =>
    if op == "*" || op == "/" || op == "%" then do
      let (b, rest) ← exprMatch f more
      exprProductRest f (← exprArith op a b) rest
    else .ok (a, op :: more)
  | _ + 1, a, [] => .ok (a, [])

def exprMatch : Nat → List String → ExprResult
  | 0, _ => .error .missingArgument
  | f + 1, ts => do
    let (a, rest) ← exprUnary f ts
    exprMatchRest f a rest

def exprMatchRest : Nat → String → List String → ExprResult
  | 0, a, ts => .ok (a, ts)
  | f + 1, a, ":" :: more => do
    let (b, rest) ← exprUnary f more
    exprMatchRest f (← exprRegexMatch a b) rest
  | _ + 1, a, ts => .ok (a, ts)

def exprUnary : Nat → List String → ExprResult
  | 0, _ => .error .missingArgument
  | f + 1, ts =>
    match ts with
    | "+" :: s :: rest => .ok (s, rest)
    | ["+"] => .error .missingArgument
    | "length" :: more => do
      let (s, rest) ← exprUnary f more
      return (toString (Wide.decode s).length, rest)
    | "match" :: more => do
      let (s, rest) ← exprPrimary f more
      let (re, rest) ← exprPrimary f rest
      return (← exprRegexMatch s re, rest)
    | "index" :: more => do
      let (s, rest) ← exprPrimary f more
      let (cs, rest) ← exprPrimary f rest
      let chars := Wide.decode cs
      return (toString ((((Wide.decode s).findIdx? (chars.contains ·)).map (· + 1)).getD 0), rest)
    | "substr" :: more => do
      let (s, rest) ← exprPrimary f more
      let (p, rest) ← exprPrimary f rest
      let (n, rest) ← exprPrimary f rest
      let part := match exprInt p, exprInt n with
        | some p, some n =>
          if p ≤ 0 || n ≤ 0 then "" else Wide.encode (((Wide.decode s).drop (p.toNat - 1)).take n.toNat)
        | _, _ => ""
      return (part, rest)
    | _ => exprPrimary f ts

def exprPrimary : Nat → List String → ExprResult
  | 0, _ => .error .missingArgument
  | f + 1, ts =>
    match ts with
    | [] => .error .missingArgument
    | "(" :: more => do
      let (v, rest) ← exprOr f more
      match rest with
      | ")" :: after => return (v, after)
      | [] => throw .expectingAfter
      | t :: _ => throw (.expectingInstead t)
    | ")" :: _ => .error .unexpectedClose
    | s :: rest => .ok (s, rest)

end

def exprTool (t : ToolInput) (args : List String) : ToolOutcome :=
  let args := match args with
    | "--" :: rest => rest
    | _ => args
  if args.isEmpty then t.fail (missingOperand "expr") 2
  else
    match exprOr (8 * args.length + 16) args with
    | .error e => t.fail ("expr: " ++ e.message (args.getLast?.getD "") ++ "\n") 2
    | .ok (v, []) => { writes := [(1, v ++ "\n")], status := if exprNull v then 1 else 0, files := t.files }
    | .ok (_, extra :: _) => t.fail ("expr: syntax error: unexpected argument " ++ quoteText extra ++ "\n") 2

end Shell
end JuryCaptions
