import JuryCaptions.Shell.Utility
/-!
`tsort`: words read in pairs, each an arc, written in an order where every arc
goes forward.
-/

namespace JuryCaptions
namespace Shell

/-- The graph of `tsort` as it is taken apart. -/
structure TsortGraph where
  names : Array String
  entering : Array Nat
  leaving : Array (List Nat)
  written : Array Bool
  link : Array (Option Nat)
  /-- The latest word of the chain of the cycle search. -/
  chainHead : Option Nat := none
  out : String := ""
  /-- The messages about cycles, with the output before each. -/
  report : Report := {}

namespace TsortGraph

def indexOf (names : Array String) (w : String) : Nat :=
  let rec go : Nat → Nat → Nat → Nat
    | 0, lo, _ => lo
    | f + 1, lo, hi =>
      if hi ≤ lo then lo
      else
        let mid := (lo + hi) / 2
        if names.getD mid "" < w then go f (mid + 1) hi else go f lo mid
  go 64 0 names.size

def ofPairs (pairs : List (String × String)) : TsortGraph :=
  let words := (pairs.flatMap fun (a, b) => [a, b]).mergeSort fun a b => !(b < a)
  let names := (words.foldl (fun (acc : Array String) w => if acc.back? == some w then acc else acc.push w) #[])
  let n := names.size
  let g : TsortGraph :=
    { names, entering := Array.replicate n 0, leaving := Array.replicate n [], written := Array.replicate n false,
      link := Array.replicate n none }
  pairs.foldl (fun g (a, b) =>
    if a == b then g
    else
      let i := indexOf names a
      let j := indexOf names b
      { g with entering := g.entering.modify j (· + 1), leaving := g.leaving.modify i (j :: ·) }) g

/-- Writes the words of a queue in turn, removing their arcs and adding the
words that no arc enters any more; the fuel bounds the words. -/
def drainQueue : Nat → TsortGraph → List Nat → TsortGraph
  | 0, g, _ => g
  | _ + 1, g, [] => g
  | f + 1, g, w :: rest =>
    let g := { g with out := g.out ++ g.names.getD w "" ++ "\n", written := g.written.setIfInBounds w true }
    let (g, added) := (g.leaving.getD w []).foldl (fun ((g : TsortGraph), (added : List Nat)) v =>
      let c := g.entering.getD v 0 - 1
      ({ g with entering := g.entering.setIfInBounds v c }, if c == 0 then added ++ [v] else added)) (g, [])
    drainQueue f g (rest ++ added)

def remaining (g : TsortGraph) : Nat := (g.written.toList.filter (!·)).length

def message (g : TsortGraph) (text : String) : TsortGraph :=
  { g with report := (g.report.say g.out).warn text, out := "" }

def writeChain (stop : Nat) : Nat → TsortGraph → Option Nat → TsortGraph × Option Nat
  | 0, g, cur => (g, cur)
  | _ + 1, g, none => (g, none)
  | f + 1, g, some w =>
    let g := g.message ("tsort: " ++ g.names.getD w "" ++ "\n")
    if w == stop then (g, some w)
    else
      let next := g.link.getD w none
      writeChain stop f { g with link := g.link.setIfInBounds w none } next

def unlinkFrom : Nat → TsortGraph → Option Nat → TsortGraph
  | 0, g, _ => g
  | _ + 1, g, none => g
  | f + 1, g, some w => unlinkFrom f { g with link := g.link.setIfInBounds w none } (g.link.getD w none)

def searchAt (g : TsortGraph) (k : Nat) : TsortGraph × Bool :=
  if g.entering.getD k 0 == 0 then (g, false)
  else match g.chainHead with
    | none => ({ g with chainHead := some k }, false)
    | some head =>
      if !(g.leaving.getD k []).contains head then (g, false)
      else if (g.link.getD k none).isNone then
        ({ g with link := g.link.setIfInBounds k (some head), chainHead := some k }, false)
      else
        let n := g.names.size + 1
        let (g, at0) := writeChain k n g (some head)
        let g := { g with leaving := g.leaving.modify k (·.erase head),
                          entering := g.entering.modify head (· - 1) }
        let g := unlinkFrom n g at0
        ({ g with chainHead := none }, true)

def searchPass (g : TsortGraph) : TsortGraph :=
  let rec go : List Nat → TsortGraph → TsortGraph
    | [], g => g
    | k :: rest, g =>
      let (g, closed) := g.searchAt k
      if closed then g else go rest g
  go (List.range g.names.size) g

def searchCycle : Nat → TsortGraph → TsortGraph
  | 0, g => g
  | f + 1, g =>
    let g := g.searchPass
    if g.chainHead.isNone then g else searchCycle f g

def order (file : String) : Nat → TsortGraph → TsortGraph
  | 0, g => g
  | f + 1, g =>
    if g.remaining == 0 then g
    else
      let zeros := (List.range g.names.size).filter fun i => g.entering.getD i 0 == 0 && !g.written.getD i false
      let g := drainQueue (g.names.size + 1) g zeros
      if g.remaining == 0 then g
      else
        let g := g.message ("tsort: " ++ file ++ ": input contains a loop:\n")
        order file f (searchCycle (2 * g.names.size + 4) g)

end TsortGraph

def tsortWords (text : String) : List String :=
  (text.split (fun c => c == ' ' || c == '\t' || c == '\n')).toList.map (·.toString) |>.filter (!·.isEmpty)

def pairUp : List String → Option (List (String × String))
  | [] => some []
  | [_] => none
  | a :: b :: rest => (pairUp rest).map ((a, b) :: ·)

def tsortTool (t : ToolInput) (args : List String) : ToolOutcome :=
  match ({} : OptionSyntax).read args with
  | .error e => t.fail (e.message "tsort") 1
  | .ok o =>
    match o.operands with
    | _ :: extra :: _ => t.fail (extraOperand "tsort" extra) 1
    | operands =>
      let file := operands.headD "-"
      match t.source file with
      | .error why => t.fail ("tsort: " ++ shownName file ++ ": " ++ why ++ "\n") 1
      | .ok text =>
        match pairUp (tsortWords text) with
        | none => t.fail ("tsort: " ++ shownName file ++ ": input contains an odd number of tokens\n") 1
        | some pairs =>
          let g := TsortGraph.ofPairs pairs
          let g := TsortGraph.order (shownName file) (g.names.size + 1) g
          t.finish (g.report.say g.out)

end Shell
end JuryCaptions
