import JuryCaptions.Shell.Utility
import JuryCaptions.Digest.Md5
import JuryCaptions.Digest.Sha
import JuryCaptions.Digest.Crc
import JuryCaptions.Text.BaseEncoding
/-!
Checksums of files: `md5sum` and the `sha…sum` programs, `cksum` and `sum`.
-/

namespace JuryCaptions
namespace Shell

inductive DigestKind where
  | md5
  | sha1
  | sha224
  | sha256
  | sha384
  | sha512
  deriving BEq, Inhabited

namespace DigestKind

def tag : DigestKind → String
  | .md5 => "MD5"
  | .sha1 => "SHA1"
  | .sha224 => "SHA224"
  | .sha256 => "SHA256"
  | .sha384 => "SHA384"
  | .sha512 => "SHA512"

def size : DigestKind → Nat
  | .md5 => 16
  | .sha1 => 20
  | .sha224 => 28
  | .sha256 => 32
  | .sha384 => 48
  | .sha512 => 64

def compute : DigestKind → ByteArray → List UInt8
  | .md5 => Digest.md5
  | .sha1 => Digest.sha1
  | .sha224 => Digest.sha224
  | .sha256 => Digest.sha256
  | .sha384 => Digest.sha384
  | .sha512 => Digest.sha512

def ofProgram : String → Option DigestKind
  | "md5sum" => some .md5
  | "sha1sum" => some .sha1
  | "sha224sum" => some .sha224
  | "sha256sum" => some .sha256
  | "sha384sum" => some .sha384
  | "sha512sum" => some .sha512
  | _ => none

def hexOf (k : DigestKind) (text : String) : String := Digest.hex (k.compute (Digest.bytesOf text))

end DigestKind

/-! ## Writing digests -/

def needsEscape (name : String) : Bool := name.any fun c => c == '\\' || c == '\n' || c == '\r'

def escapedName (name : String) : String :=
  String.join (name.toList.map fun c =>
    match c with
    | '\\' => "\\\\"
    | '\n' => "\\n"
    | '\r' => "\\r"
    | c => String.singleton c)

def digestLine (tagName name digest : String) (tagged binary : Bool) (ending : Char) : String :=
  let escape := ending == '\n' && needsEscape name
  let shown := if escape then escapedName name else name
  (if escape then "\\" else "") ++
    (if tagged then tagName ++ " (" ++ shown ++ ") = " ++ digest
     else digest ++ " " ++ (if binary then "*" else " ") ++ shown) ++ String.singleton ending

/-! ## Reading lists of digests -/

def unescapeName : List Char → Option (List Char)
  | [] => some []
  | '\\' :: c :: rest =>
    match c with
    | 'n' => (unescapeName rest).map ('\n' :: ·)
    | 'r' => (unescapeName rest).map ('\r' :: ·)
    | '\\' => (unescapeName rest).map ('\\' :: ·)
    | _ => none
  | ['\\'] => none
  | c :: rest => if c == '\x00' then none else (unescapeName rest).map (c :: ·)

def isWhite (c : Char) : Bool := c == ' ' || c == '\t'

def isHexDigest (k : DigestKind) (cs : List Char) : Bool :=
  cs.length == 2 * k.size && cs.all fun c => c.isDigit || ('a' ≤ c.toLower && c.toLower ≤ 'f')

/-- A digest line read: the digest, whether the file is read as binary, and
the name. -/
structure DigestEntry where
  digest : String
  binary : Bool
  name : String

def readTagged (k : DigestKind) (cs : List Char) (escaped : Bool) : Option DigestEntry :=
  let close := (List.range cs.length).reverse.find? fun i => cs.getD i ' ' == ')'
  match close with
  | none => none
  | some i =>
    let name := cs.take i
    let name? := if escaped then unescapeName name else some name
    let rest := (cs.drop (i + 1)).dropWhile isWhite
    match name?, rest with
    | some name, '=' :: more =>
      let digest := more.dropWhile isWhite
      if isHexDigest k digest then some ⟨String.ofList digest, false, String.ofList name⟩ else none
    | _, _ => none

/-- Reads a line of a list of digests, and whether the lines are read with one
blank between digest and name (none while no line has decided it). -/
def readEntry (k : DigestKind) (reversed : Option Bool) (line : List Char) : Option DigestEntry × Option Bool :=
  let cs := line.dropWhile isWhite
  let (escaped, cs) := match cs with
    | '\\' :: rest => (true, rest)
    | _ => (false, cs)
  let tagChars := k.tag.toList
  if cs.take tagChars.length == tagChars then
    let rest := cs.drop tagChars.length
    let rest := match rest with
      | ' ' :: more => more
      | _ => rest
    match rest with
    | '(' :: more => (readTagged k more escaped, reversed)
    | _ => (none, reversed)
  else if cs.length < 2 * k.size + 3 + (if cs.head? == some '\\' then 1 else 0) then (none, reversed)
  else
    let digest := cs.take (2 * k.size)
    match cs.drop (2 * k.size) with
    | w :: rest =>
      if !isWhite w || !isHexDigest k digest then (none, reversed)
      else
        let oneBlank := rest.length == 1 || (rest.head? != some ' ' && rest.head? != some '*')
        let (ok, reversed, binary, name) :=
          if oneBlank then
            if reversed == some false then (false, reversed, false, rest) else (true, some true, false, rest)
          else if reversed != some true then (true, some false, rest.head? == some '*', rest.drop 1)
          else (true, reversed, false, rest)
        if !ok then (none, reversed)
        else
          let name? := if escaped then unescapeName name else some name
          (name?.map fun n => ⟨String.ofList digest, binary, String.ofList n⟩, reversed)
    | [] => (none, reversed)

structure CheckCount where
  misformatted : Nat := 0
  unreadable : Nat := 0
  mismatched : Nat := 0
  formatted : Bool := false
  matched : Bool := false

structure CheckStyle where
  quiet : Bool := false
  status : Bool := false
  strictLines : Bool := false
  warn : Bool := false
  ignoreMissing : Bool := false

def counted (n : Nat) (one many : String) : String := toString n ++ " " ++ (if n == 1 then one else many)

def checkList (tool : String) (k : DigestKind) (style : CheckStyle) (t : ToolInput) (r : Report)
    (list : String) (inputRead : Bool) : Report × Bool × Bool :=
  let isInput := list == "-"
  match (if isInput then .ok (if inputRead then "" else t.input) else t.read list) with
  | .error why => (r.warn (tool ++ ": " ++ shownName list ++ ": " ++ why ++ "\n"), false, inputRead)
  | .ok text =>
    let inputRead := inputRead || isInput
    let lines := bodiesOf text
    let step := fun ((r : Report), (c : CheckCount), (reversed : Option Bool), (inputRead : Bool), (no : Nat))
        (line : String) =>
      let no := no + 1
      let cs := line.toList
      let cs := if cs.getLast? == some '\r' then cs.dropLast else cs
      if cs.head? == some '#' || cs.isEmpty then (r, c, reversed, inputRead, no)
      else
        let (entry, reversed) := readEntry k reversed cs
        let entry := entry.filter fun e => !(isInput && e.name == "-")
        match entry with
        | none =>
          let r := if style.warn then
              r.note (tool ++ ": " ++ shownName list ++ ": " ++ toString no ++ ": improperly formatted " ++ k.tag ++
                " checksum line\n")
            else r
          (r, { c with misformatted := c.misformatted + 1 }, reversed, inputRead, no)
        | some e =>
          let c := { c with formatted := true }
          let escape := !style.status && needsEscape e.name
          let shown := (if escape then "\\" else "") ++ (if escape then escapedName e.name else e.name)
          let content := if e.name == "-" then .ok (if inputRead then "" else t.input) else t.read e.name
          let inputRead := inputRead || e.name == "-"
          match content with
          | .error why =>
            if style.ignoreMissing && why == "No such file or directory" then (r, c, reversed, inputRead, no)
            else
              let r := r.note (tool ++ ": " ++ shownName e.name ++ ": " ++ why ++ "\n")
              let r := if style.status then r else r.say (shown ++ ": FAILED open or read\n")
              (r, { c with unreadable := c.unreadable + 1 }, reversed, inputRead, no)
          | .ok body =>
            let same := k.hexOf body == String.ofList (e.digest.toList.map Char.toLower)
            let c := if same then { c with matched := true } else { c with mismatched := c.mismatched + 1 }
            let r := if style.status then r
              else if !same then r.say (shown ++ ": FAILED\n")
              else if style.quiet then r
              else r.say (shown ++ ": OK\n")
            (r, c, reversed, inputRead, no)
    let (r, c, _, inputRead, _) := lines.foldl step (r, ({} : CheckCount), none, inputRead, 0)
    if !c.formatted then
      (r.note (tool ++ ": " ++ shownName list ++ ": no properly formatted checksum lines found\n"), false, inputRead)
    else
      let r := if style.status then r else
        let r := if c.misformatted == 0 then r
          else r.note (tool ++ ": WARNING: " ++ counted c.misformatted "line is" "lines are" ++ " improperly formatted\n")
        let r := if c.unreadable == 0 then r
          else r.note (tool ++ ": WARNING: " ++ counted c.unreadable "listed file" "listed files" ++ " could not be read\n")
        let r := if c.mismatched == 0 then r
          else r.note (tool ++ ": WARNING: " ++ counted c.mismatched "computed checksum" "computed checksums" ++
            " did NOT match\n")
        if style.ignoreMissing && !c.matched then r.note (tool ++ ": " ++ shownName list ++ ": no file was verified\n")
        else r
      let ok := c.matched && c.mismatched == 0 && c.unreadable == 0 && (!style.strictLines || c.misformatted == 0)
      (r, ok, inputRead)

def checkLists (tool : String) (k : DigestKind) (style : CheckStyle) (t : ToolInput) (lists : List String) :
    Report :=
  let (r, ok, _) := lists.foldl (fun ((r : Report), ok, inputRead) list =>
    let (r, held, inputRead) := checkList tool k style t r list inputRead
    (r, ok && held, inputRead)) ({}, true, false)
  if ok then r else { r with failed := true }

/-! ## The programs -/

def digestSyntax : OptionSyntax :=
  { flags := ['b', 'c', 't', 'z', 'w', longOnly 1, longOnly 2, longOnly 3, longOnly 4, longOnly 5],
    long := [("binary", 'b'), ("check", 'c'), ("text", 't'), ("zero", 'z'), ("warn", 'w'), ("tag", longOnly 1),
             ("ignore-missing", longOnly 2), ("quiet", longOnly 3), ("status", longOnly 4), ("strict", longOnly 5)] }

/-- Reads each file in turn, the standard input once, and writes a line for
each that reads with `line`, a message for each that does not. -/
def eachFile (tool : String) (t : ToolInput) (names : List String) (line : String → String → String) : Report :=
  let (r, _) := names.foldl (fun ((r : Report), inputRead) n =>
    let text := if n == "-" then .ok (if inputRead then "" else t.input) else t.read n
    let inputRead := inputRead || n == "-"
    match text with
    | .ok text => (r.say (line n text), inputRead)
    | .error why => (r.warn (tool ++ ": " ++ shownName n ++ ": " ++ why ++ "\n"), inputRead)) ({}, false)
  r

def misuse (tool msg : String) : String := tool ++ ": " ++ msg ++ "\n" ++ tryHelp tool

def checkOnly : List (Char × String) :=
  [(longOnly 2, "--ignore-missing"), (longOnly 4, "--status"), ('w', "--warn"), (longOnly 3, "--quiet"),
   (longOnly 5, "--strict")]

def checkStyleOf (o : ReadOptions) : CheckStyle :=
  { quiet := o.has (longOnly 3), status := o.has (longOnly 4), strictLines := o.has (longOnly 5),
    warn := o.has 'w', ignoreMissing := o.has (longOnly 2) }

def digestTool (tool : String) (k : DigestKind) (t : ToolInput) (args : List String) : ToolOutcome :=
  match digestSyntax.read args with
  | .error e => t.fail (e.message tool) 1
  | .ok o =>
    let check := o.has 'c'
    let tagged := o.has (longOnly 1)
    let binary : Option Bool := o.given.foldl (fun b (c, _) =>
      if c == 'b' || c == longOnly 1 then some true else if c == 't' then some false else b) none
    let ending := if o.has 'z' then '\x00' else '\n'
    if tagged && binary == some false then t.fail (misuse tool "--tag does not support --text mode") 1
    else if o.has 'z' && check then t.fail (misuse tool "the --zero option is not supported when verifying checksums") 1
    else if tagged && check then t.fail (misuse tool "the --tag option is meaningless when verifying checksums") 1
    else if binary.isSome && check then
      t.fail (misuse tool "the --binary and --text options are meaningless when verifying checksums") 1
    else match (checkOnly.find? fun (c, _) => o.has c), check with
      | some (_, name), false =>
        t.fail (misuse tool ("the " ++ name ++ " option is meaningful only when verifying checksums")) 1
      | _, _ =>
        let names := o.operandsOr "-"
        if check then
          t.finish (checkLists tool k (checkStyleOf o) t names)
        else
          t.finish (eachFile tool t names fun n text =>
            digestLine k.tag n (k.hexOf text) tagged (binary == some true) ending)

inductive SumKind where
  | crc
  | bsd
  | sysv
  | digest (k : DigestKind)
  deriving BEq, Inhabited

def sumNames : List String :=
  ["sysv", "bsd", "crc", "md5", "sha1", "sha224", "sha256", "sha384", "sha512", "blake2b", "sm3"]

def SumKind.ofName : String → Option SumKind
  | "sysv" => some .sysv
  | "bsd" => some .bsd
  | "crc" => some .crc
  | "md5" => some (.digest .md5)
  | "sha1" => some (.digest .sha1)
  | "sha224" => some (.digest .sha224)
  | "sha256" => some (.digest .sha256)
  | "sha384" => some (.digest .sha384)
  | "sha512" => some (.digest .sha512)
  | _ => none

def padWith (width : Nat) (fill : Char) (s : String) : String :=
  String.ofList (List.replicate (width - s.length) fill) ++ s

def sumLine (k : SumKind) (named : Bool) (name text : String) (ending : Char) : String :=
  let bytes := Digest.bytesOf text
  let size := bytes.size
  let body := match k with
    | .crc => toString (Digest.posixCrc bytes).toNat ++ " " ++ toString size
    | .bsd => padWith 5 '0' (toString (Digest.bsdSum bytes)) ++ " " ++ padWith 5 ' ' (toString ((size + 1023) / 1024))
    | .sysv => toString (Digest.sysvSum bytes) ++ " " ++ toString ((size + 511) / 512)
    | .digest _ => ""
  body ++ (if named then " " ++ name else "") ++ String.singleton ending

def cksumSyntax : OptionSyntax :=
  { flags := ['c', 'z', 'w', longOnly 1, longOnly 2, longOnly 3, longOnly 4, longOnly 5, longOnly 6, longOnly 7,
              longOnly 8, longOnly 9],
    valued := ['a', 'l'],
    long := [("algorithm", 'a'), ("check", 'c'), ("length", 'l'), ("zero", 'z'), ("warn", 'w'),
             ("tag", longOnly 1), ("ignore-missing", longOnly 2), ("quiet", longOnly 3), ("status", longOnly 4),
             ("strict", longOnly 5), ("untagged", longOnly 6), ("base64", longOnly 7), ("raw", longOnly 8),
             ("debug", longOnly 9)] }

def cksumTool (t : ToolInput) (args : List String) : ToolOutcome :=
  match cksumSyntax.read args with
  | .error e => t.fail (e.message "cksum") 1
  | .ok o =>
    let algorithm : Except String SumKind := match o.last? 'a' with
      | none => .ok .crc
      | some v =>
        match readMethod "cksum" "algorithm" sumNames v with
        | .error e => .error e
        | .ok name =>
          match SumKind.ofName name with
          | some k => .ok k
          | none => .error ("cksum: " ++ name ++ ": unsupported algorithm\n")
    match algorithm with
    | .error e => t.fail e 1
    | .ok k =>
      let ending := if o.has 'z' then '\x00' else '\n'
      let named := !o.operands.isEmpty
      let names := o.operandsOr "-"
      match k with
      | .digest d =>
        if o.has 'c' then
          t.finish (checkLists "cksum" d (checkStyleOf o) t names)
        else
          let untagged := o.given.foldl (fun u (c, _) =>
            if c == longOnly 6 then true else if c == longOnly 1 then false else u) false
          t.finish (eachFile "cksum" t names fun n text =>
            let bytes := d.compute (Digest.bytesOf text)
            let shown := if o.has (longOnly 7) then String.ofList (Radix.base64.encode (bytes.map UInt8.toNat))
              else Digest.hex bytes
            digestLine d.tag n shown (!untagged) false ending)
      | _ =>
        if o.has 'c' then t.fail "cksum: --check is not supported with --algorithm=\x7bbsd,sysv,crc\x7d\n" 1
        else t.finish (eachFile "cksum" t names fun n text => sumLine k named n text ending)

def sumSyntax : OptionSyntax := { flags := ['r', 's'], long := [("sysv", 's')] }

def sumTool (t : ToolInput) (args : List String) : ToolOutcome :=
  match sumSyntax.read args with
  | .error e => t.fail (e.message "sum") 1
  | .ok o =>
    let k := o.given.foldl (fun k (c, _) => if c == 's' then SumKind.sysv else if c == 'r' then .bsd else k) SumKind.bsd
    let names := o.operandsOr "-"
    let named := if k == .bsd then o.operands.length > 1 else !o.operands.isEmpty
    t.finish (eachFile "sum" t names fun n text => sumLine k named n text '\n')

end Shell
end JuryCaptions
