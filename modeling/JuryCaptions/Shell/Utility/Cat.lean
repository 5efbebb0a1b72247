import JuryCaptions.Shell.Utility
/-!
Concatenating files: `cat`, which writes its files one after another, the
standard input for `-` or for no operand.
-/

namespace JuryCaptions
namespace Shell

structure CatStyle where
  number : Bool := false
  /-- With `number`, whether empty lines go without a number. -/
  nonBlank : Bool := false
  squeeze : Bool := false
  ends : Bool := false
  tabs : Bool := false
  controls : Bool := false

/-- Where `cat` is: the last line number given, the empty lines of the current
run, and whether a line has begun and not ended. -/
structure CatState where
  count : Nat := 0
  blanks : Nat := 0
  midLine : Bool := false

namespace CatStyle

def plain (s : CatStyle) : Bool := !(s.number || s.squeeze || s.ends || s.tabs || s.controls)

def shown (s : CatStyle) (c : Char) : String :=
  let n := c.toNat
  let low (k : Nat) : String :=
    if k < 32 then "^" ++ String.singleton (Char.ofNat (k + 64))
    else if k == 127 then "^?"
    else String.singleton (Char.ofNat k)
  if c == '\t' then (if s.tabs then "^I" else "\t")
  else if !s.controls then String.singleton c
  else if n ≥ 128 then "M-" ++ low (n - 128)
  else low n

def numberText (k : Nat) : String :=
  let ds := toString k
  String.ofList (List.replicate (6 - ds.length) ' ') ++ ds ++ "\t"

def piece (s : CatStyle) (st : CatState) (line : String) (ended : Bool) : String × CatState :=
  let body := String.join (line.toList.map s.shown)
  let tail := if ended then (if s.ends then "$\n" else "\n") else ""
  if st.midLine then (body ++ tail, { st with midLine := !ended })
  else if line.isEmpty then
    if !ended then ("", st)
    else
      let blanks := st.blanks + 1
      if s.squeeze && blanks ≥ 2 then ("", { st with blanks })
      else if s.number && !s.nonBlank then
        (numberText (st.count + 1) ++ tail, { st with count := st.count + 1, blanks })
      else (tail, { st with blanks })
  else
    let (label, count) := if s.number then (numberText (st.count + 1), st.count + 1) else ("", st.count)
    (label ++ body ++ tail, { count, blanks := 0, midLine := !ended })

def run (s : CatStyle) (st : CatState) (text : String) : String × CatState :=
  if s.plain then (text, st)
  else
    let parts := text.splitOn "\n"
    let count := parts.length
    let (out, st) := parts.zipIdx.foldl (fun (out, st) (line, i) =>
      let (more, st) := s.piece st line (i + 1 < count)
      (out ++ more, st)) ("", st)
    (out, st)

end CatStyle

def catSyntax : OptionSyntax :=
  { flags := "AbeEnstTuv".toList,
    long := [("show-all", 'A'), ("number-nonblank", 'b'), ("show-ends", 'E'), ("number", 'n'),
             ("squeeze-blank", 's'), ("show-tabs", 'T'), ("show-nonprinting", 'v')] }

def CatStyle.ofOptions (given : List (Char × String)) : CatStyle :=
  given.foldl (fun s (c, _) => match c with
    | 'A' => { s with controls := true, ends := true, tabs := true }
    | 'b' => { s with number := true, nonBlank := true }
    | 'e' => { s with controls := true, ends := true }
    | 'E' => { s with ends := true }
    | 'n' => { s with number := true }
    | 's' => { s with squeeze := true }
    | 't' => { s with controls := true, tabs := true }
    | 'T' => { s with tabs := true }
    | 'v' => { s with controls := true }
    | _ => s) {}

def catTool (t : ToolInput) (args : List String) : ToolOutcome :=
  match catSyntax.read args with
  | .error e => t.fail (e.message "cat") 1
  | .ok o =>
    let style := CatStyle.ofOptions o.given
    let names := o.operandsOr "-"
    let (r, _, _) := names.foldl (fun ((r : Report), st, inputRead) n =>
      let text := if n == "-" then .ok (if inputRead then "" else t.input) else t.read n
      let inputRead := inputRead || n == "-"
      match text with
      | .ok text =>
        let (out, st) := style.run st text
        (r.say out, st, inputRead)
      | .error why => (r.warn ("cat: " ++ n ++ ": " ++ why ++ "\n"), st, inputRead)) ({}, ({} : CatState), false)
    t.finish r

end Shell
end JuryCaptions
