import JuryCaptions.Shell.Utility
import JuryCaptions.Shell.Format
/-!
Translating, deleting and squeezing characters: `tr`. Sets hold characters,
escapes, ranges, classes `[:name:]`, and in the second set repeats `[c*n]` and
`[c*]`, which fills it to the first set's length.
-/

namespace JuryCaptions
namespace Shell

/-- A piece of a set: characters, a class by its name, an equivalence class of
one character, or a repeat of one that may fill the set. -/
inductive SetPiece where
  | chars (cs : List Char)
  | cls (name : String) (cs : List Char)
  | equiv (c : Char)
  | repeat (c : Char) (count : Option Nat)
  deriving Inhabited

def SetPiece.fills : SetPiece → Bool
  | .repeat _ none => true
  | _ => false

def SetPiece.isCaseClass : SetPiece → Bool
  | .cls name _ => name == "upper" || name == "lower"
  | _ => false

def classChars (name : String) : Option (List Char) :=
  let ascii := (List.range 128).map Char.ofNat
  let pick (p : Char → Bool) := some (ascii.filter p)
  match name with
  | "alnum" => pick Char.isAlphanum
  | "alpha" => pick Char.isAlpha
  | "blank" => some [' ', '\t']
  | "cntrl" => pick fun c => c.toNat < 32 || c.toNat == 127
  | "digit" => pick Char.isDigit
  | "graph" => pick fun c => c.toNat > 32 && c.toNat < 127
  | "lower" => pick Char.isLower
  | "print" => pick fun c => c.toNat ≥ 32 && c.toNat < 127
  | "punct" => pick fun c => c.toNat > 32 && c.toNat < 127 && !c.isAlphanum
  | "space" => pick isSpaceChar
  | "upper" => pick Char.isUpper
  | "xdigit" => pick fun c => c.isDigit || ('a' ≤ c && c ≤ 'f') || ('A' ≤ c && c ≤ 'F')
  | _ => none

def unescapeSet : Nat → List Char → List (Char × Bool)
  | 0, _ => []
  | _ + 1, [] => []
  | _ + 1, ['\\'] => [('\\', true)]
  | f + 1, '\\' :: c :: rest =>
    if isOctal c then
      let ds := (c :: rest).takeWhile isOctal
      let ds := if ds.length ≥ 3 && octalValue (ds.take 3) > 255 then ds.take 2 else ds.take 3
      (Char.ofNat (octalValue ds), true) :: unescapeSet f ((c :: rest).drop ds.length)
    else
      let e := match c with
        | 'a' => '\x07' | 'b' => '\x08' | 'f' => '\x0c' | 'n' => '\n'
        | 'r' => '\r' | 't' => '\t' | 'v' => '\x0b' | _ => c
      (e, true) :: unescapeSet f rest
  | f + 1, c :: rest => (c, false) :: unescapeSet f rest

/-- The warnings about a set: a backslash at its end, and a three-digit octal
escape above 255, read as two digits and a character. -/
def setWarnings : Nat → List Char → List String
  | 0, _ => []
  | _ + 1, [] => []
  | _ + 1, ['\\'] => ["warning: an unescaped backslash at end of string is not portable"]
  | f + 1, '\\' :: c :: rest =>
    let ds := ((c :: rest).takeWhile isOctal).take 3
    match ds with
    | [a, b, d] =>
      if octalValue ds > 255 then
        ("warning: the ambiguous octal escape \\" ++ String.ofList ds ++ " is being\n\tinterpreted as the 2-byte sequence \\0" ++
          String.ofList [a, b] ++ ", " ++ String.singleton d) :: setWarnings f rest.tail.tail
      else setWarnings f rest.tail.tail
    | _ => setWarnings f rest
  | f + 1, _ :: rest => setWarnings f rest

def repeatCount (ds : List Char) : Option (Option Nat) :=
  if ds.isEmpty then some none
  else if !ds.all Char.isDigit then none
  else if ds.head? == some '0' then
    if ds.all isOctal then
      let n := octalValue ds
      some (if n == 0 then none else some n)
    else none
  else some (some (String.ofList ds).toNat!)

def readCharSet (text : String) : Nat → List (Char × Bool) → Except String (List SetPiece)
  | 0, _ => .ok []
  | _ + 1, [] => .ok []
  | f + 1, ('[', false) :: (':', false) :: rest =>
    let name := rest.takeWhile fun (c, _) => c != ':'
    match rest.drop name.length with
    | (':', false) :: (']', false) :: more =>
      let n := String.ofList (name.map (·.1))
      match classChars n with
      | some cs => do return .cls n cs :: (← readCharSet text f more)
      | none => .error ("invalid character class " ++ quoteText n)
    | _ => do return .chars ['['] :: (← readCharSet text f ((':', false) :: rest))
  | f + 1, ('[', false) :: (c, _) :: ('*', false) :: rest =>
    let ds := rest.takeWhile fun (d, _) => d != ']'
    match rest.drop ds.length with
    | (']', _) :: more =>
      match repeatCount (ds.map (·.1)) with
      | some n => do return .repeat c n :: (← readCharSet text f more)
      | none => .error ("invalid repeat count " ++ quoteText ("[" ++ String.singleton c ++ "*" ++
          String.ofList (ds.map (·.1)) ++ "]") ++ " in [c*n] construct")
    | _ => do return .chars ['['] :: (← readCharSet text f ((c, false) :: ('*', false) :: rest))
  | f + 1, ('[', false) :: ('=', false) :: (c, _) :: ('=', false) :: (']', false) :: rest => do
    return .equiv c :: (← readCharSet text f rest)
  | f + 1, ('[', false) :: ('=', false) :: rest =>
    let inside := rest.takeWhile fun (c, _) => c != '='
    match rest.drop inside.length with
    | ('=', false) :: (']', false) :: _ =>
      .error (String.ofList (inside.map (·.1)) ++ ": equivalence class operand must be a single character")
    | _ => do return .chars ['['] :: (← readCharSet text f (('=', false) :: rest))
  | f + 1, (a, _) :: ('-', false) :: (b, _) :: rest =>
    if b < a then
      .error ("range-endpoints of '" ++ String.singleton a ++ "-" ++ String.singleton b ++
        "' are in reverse collating sequence order")
    else do
      let cs := (List.range (b.toNat - a.toNat + 1)).map fun k => Char.ofNat (a.toNat + k)
      return .chars cs :: (← readCharSet text f rest)
  | f + 1, (c, _) :: rest => do return .chars [c] :: (← readCharSet text f rest)

def SetPiece.expand (target : Nat) (ps : List SetPiece) : List Char :=
  let fixed := ps.foldl (fun n p => match p with
    | .chars cs | .cls _ cs => n + cs.length
    | .equiv _ => n + 1
    | .repeat _ (some k) => n + k
    | .repeat _ none => n) 0
  let fill := target - fixed
  let (cs, _) := ps.foldl (fun (acc, filled) p => match p with
    | .chars cs | .cls _ cs => (acc ++ cs, filled)
    | .equiv c => (acc ++ [c], filled)
    | .repeat c (some k) => (acc ++ List.replicate k c, filled)
    | .repeat c none => if filled then (acc, filled) else (acc ++ List.replicate fill c, true)) ([], false)
  cs

def complementSet (cs : List Char) : List Char :=
  ((List.range 256).map Char.ofNat).filter (!cs.contains ·)

def caseStarts (target : Nat) (ps : List SetPiece) : List (Option Nat) :=
  let filled := SetPiece.expand target ps
  let fill := filled.length - (SetPiece.expand 0 ps).length
  ps.flatMap fun p => match p with
    | .cls name cs =>
      if name == "upper" || name == "lower" then some cs.length :: List.replicate (cs.length - 1) none
      else List.replicate cs.length none
    | .chars cs => List.replicate cs.length none
    | .equiv _ => [none]
    | .repeat _ (some k) => List.replicate k none
    | .repeat _ none => List.replicate fill none

def caseMisaligned : Nat → List (Option Nat) → List (Option Nat) → Bool
  | 0, _, _ => false
  | _ + 1, _, [] => false
  | f + 1, a, some lb :: b =>
    match a with
    | some la :: a => caseMisaligned f (a.drop (la - 1)) (b.drop (lb - 1))
    | _ => true
  | _ + 1, [], none :: _ => false
  | f + 1, _ :: a, none :: b => caseMisaligned f a b

def squeezeRuns (squeeze : List Char) (cs : List Char) : List Char :=
  (cs.foldl (fun (acc : List Char) c =>
    match acc with
    | d :: _ => if c == d && squeeze.contains c then acc else c :: acc
    | [] => [c]) []).reverse

def trSyntax : OptionSyntax :=
  { flags := ['c', 'C', 'd', 's', 't'],
    long := [("complement", 'c'), ("delete", 'd'), ("squeeze-repeats", 's'), ("truncate-set1", 't')] }

def trWork (t : ToolInput) (complement delete squeeze truncate : Bool) (s1 : String) (s2 : Option String) :
    ToolOutcome :=
  let readOne (s : String) := readCharSet s (s.length + 1) (unescapeSet (s.length + 1) s.toList)
  let translating := s2.isSome && !delete
  match readOne s1, (s2.map readOne).getD (.ok []) with
  | .error e, _ | _, .error e => t.fail ("tr: " ++ e ++ "\n") 1
  | .ok p1, .ok p2 =>
    let length1 :=
      if complement then (complementSet (SetPiece.expand 0 p1)).length else (SetPiece.expand 0 p1).length
    let fault : Option String :=
      if p1.any SetPiece.fills then some "the [c*] repeat construct may not appear in string1"
      else if (p2.filter SetPiece.fills).length > 1 then some "only one [c*] repeat construct may appear in string2"
      else if translating then
        if p2.any (fun p => match p with | .equiv _ => true | _ => false) then
          some "[=c=] expressions may not appear in string2 when translating"
        else if p2.any (fun p => match p with | .cls _ _ => !p.isCaseClass | _ => false) then
          some "when translating, the only character classes that may appear in\nstring2 are 'upper' and 'lower'"
        else if p2.any SetPiece.isCaseClass &&
            caseMisaligned (length1 + 1) (caseStarts 0 p1) (caseStarts length1 p2) then
          some "misaligned [:upper:] and/or [:lower:] construct"
        else
          let length2 := (SetPiece.expand length1 p2).length
          if length1 > length2 && !truncate && length2 == 0 then
            some "when not truncating set1, string2 must be non-empty"
          else if complement && p1.any (fun p => match p with | .cls _ _ => true | _ => false) then
            let filled := SetPiece.expand length1 p2
            let filled := filled ++ List.replicate (length1 - filled.length) (filled.getLast?.getD ' ')
            if filled.all (· == filled.headD ' ') then none
            else some "when translating with complemented character classes,\nstring2 must map all characters in the domain to one"
          else none
      else if p2.any SetPiece.fills then some "the [c*] construct may appear in string2 only when translating"
      else none
    match fault with
    | some e => t.fail ("tr: " ++ e ++ "\n") 1
    | none =>
      let set1 := SetPiece.expand 0 p1
      let set1 := if complement then complementSet set1 else set1
      let set2 := SetPiece.expand set1.length p2
      let cs := t.input.toList
      if delete then
        let kept := cs.filter (!set1.contains ·)
        t.done (String.ofList (if squeeze then squeezeRuns set2 kept else kept))
      else match s2 with
        | none => t.done (String.ofList (squeezeRuns set1 cs))
        | some _ =>
          if set2.isEmpty && !set1.isEmpty && !truncate then
            t.fail "tr: when not truncating set1, string2 must be non-empty\n" 1
          else
            let set1 := if truncate then set1.take set2.length else set1
            let set2 := set2 ++ List.replicate (set1.length - set2.length) (set2.getLast?.getD ' ')
            let pairs := (set1.zip set2).reverse
            let map (c : Char) : Char := ((pairs.find? (·.1 == c)).map (·.2)).getD c
            let mapped := cs.map map
            t.done (String.ofList (if squeeze then squeezeRuns set2 mapped else mapped))

def trRun (t : ToolInput) (complement delete squeeze truncate : Bool) (s1 : String) (s2 : Option String) :
    ToolOutcome :=
  let warnings := ([s1] ++ s2.toList).flatMap fun s => setWarnings (s.length + 1) s.toList
  let o := trWork t complement delete squeeze truncate s1 s2
  { o with writes := warnings.map (fun w => (2, "tr: " ++ w ++ "\n")) ++ o.writes }

def trTool (t : ToolInput) (args : List String) : ToolOutcome :=
  match trSyntax.read args with
  | .error e => t.fail (e.message "tr") 1
  | .ok o =>
    let complement := o.has 'c' || o.has 'C'
    let delete := o.has 'd'
    let squeeze := o.has 's'
    let usage (msg : String) := t.fail ("tr: " ++ msg ++ "\n" ++ tryHelp "tr") 1
    let needed := if delete && squeeze then 2 else if delete || squeeze then 1 else 2
    let allowed := if delete && !squeeze then 1 else 2
    match o.operands with
    | [] => usage "missing operand"
    | [s1] =>
      if needed == 2 then
        usage ("missing operand after " ++ quoteText s1 ++ "\n" ++
          (if delete then "Two strings must be given when both deleting and squeezing repeats."
           else "Two strings must be given when translating."))
      else trRun t complement delete squeeze (o.has 't') s1 none
    | s1 :: s2 :: rest =>
      if allowed == 1 then
        usage ("extra operand " ++ quoteText s2 ++ "\nOnly one string may be given when deleting without squeezing repeats.")
      else match rest with
        | extra :: _ => usage ("extra operand " ++ quoteText extra)
        | [] => trRun t complement delete squeeze (o.has 't') s1 (some s2)

end Shell
end JuryCaptions
