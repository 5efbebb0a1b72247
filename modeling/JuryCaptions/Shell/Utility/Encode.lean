import JuryCaptions.Shell.Utility
import JuryCaptions.Text.BaseEncoding
/-!
`base64` and `base32`: a file, or the standard input, written in the letters
of the encoding, or with `-d` read back from them.
-/

namespace JuryCaptions
namespace Shell

def encodeSyntax : OptionSyntax :=
  { flags := ['d', 'i'], valued := ['w'],
    long := [("decode", 'd'), ("ignore-garbage", 'i'), ("wrap", 'w')] }

def wrapFrom (width : Nat) : Nat → List Char → String → String
  | 0, _, acc => acc
  | _ + 1, [], acc => acc
  | f + 1, cs, acc => wrapFrom width f (cs.drop width) (acc ++ String.ofList (cs.take width) ++ "\n")

def wrapLines (width : Nat) (cs : List Char) : String :=
  if width == 0 then String.ofList cs else wrapFrom width (cs.length + 1) cs ""

def radixTool (r : Radix) (t : ToolInput) (args : List String) : ToolOutcome :=
  let name := match r with
    | .base64 => "base64"
    | .base32 => "base32"
  match encodeSyntax.read args with
  | .error e => t.fail (e.message name) 1
  | .ok o =>
    let width : Except String Nat := match o.last? 'w' with
      | none => .ok 76
      | some w =>
        match readBounded w true "" 0 9223372036854775807 with
        | .ok v => .ok v.toNat
        | .error f => .error (name ++ ": invalid wrap size: " ++ quoteText w ++ f.suffix ++ "\n")
    match width, o.operands with
    | .error e, _ => t.fail e 1
    | _, _ :: extra :: _ => t.fail (extraOperand name extra) 1
    | .ok width, operands =>
      let file := operands.headD "-"
      match t.source file with
      | .error why => t.fail (name ++ ": " ++ file ++ ": " ++ why ++ "\n") 1
      | .ok text =>
        if o.has 'd' then
          let cs := if o.has 'i' then text.toList.filter fun c => r.isLetter c || c == '=' else text.toList
          let (bytes, ok) := r.decode cs
          let out := String.ofList (bytes.map Char.ofNat)
          if ok then t.done out
          else t.finish (({} : Report).say out |>.warn (name ++ ": invalid input\n"))
        else t.done (wrapLines width (r.encode (text.toList.map Char.toNat)))

end Shell
end JuryCaptions
