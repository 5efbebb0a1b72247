import JuryCaptions.Shell.Utility
import JuryCaptions.Number.Factor
/-!
`factor`: each number of the operands, or of the words of the input when
there are none, written with its prime factors, `12: 2 2 3`.
-/

namespace JuryCaptions
namespace Shell

def factorGroups (fs : List Nat) : List (Nat × Nat) :=
  fs.foldr (fun p acc =>
    match acc with
    | (q, k) :: rest => if p == q then (q, k + 1) :: rest else (p, 1) :: acc
    | [] => [(p, 1)]) []

def factorLine (exponents : Bool) (n : Nat) : String :=
  let parts := (factorGroups (Factor.primeFactors n)).map fun (p, k) =>
    if exponents && k > 1 then " " ++ toString p ++ "^" ++ toString k
    else String.join (List.replicate k (" " ++ toString p))
  toString n ++ ":" ++ String.join parts ++ "\n"

def readFactorNumber (s : String) : Option Nat :=
  let cs := s.toList.dropWhile (· == ' ')
  let cs := if cs.head? == some '+' then cs.drop 1 else cs
  if !cs.isEmpty && cs.all Char.isDigit then some (cs.foldl (fun n c => 10 * n + (c.toNat - 48)) 0) else none

def factorWord (exponents : Bool) (acc : Report × String) (word : String) : Report × String :=
  let (r, held) := acc
  match readFactorNumber word with
  | none => (r.warn ("factor: " ++ quoteText word ++ " is not a valid positive integer\n"), held)
  | some n =>
    if n < Nat.pow 2 127 then (r, held ++ factorLine exponents n)
    else (r.say (held ++ factorLine exponents n), "")

def factorSyntax : OptionSyntax :=
  { flags := ['h'], long := [("exponents", 'h')] }

def factorTool (t : ToolInput) (args : List String) : ToolOutcome :=
  match factorSyntax.read args with
  | .error e => t.fail (e.message "factor") 1
  | .ok o =>
    let words := if o.operands.isEmpty then
        (t.input.split (fun c => c == ' ' || c == '\t' || c == '\n')).toList.map (·.toString) |>.filter (!·.isEmpty)
      else o.operands
    let (r, held) := words.foldl (factorWord (o.has 'h')) ({}, "")
    t.finish (r.say held)

end Shell
end JuryCaptions
