import JuryCaptions.Json.Read
/-!
Reading a document into a typed value, leniently: a later duplicate key wins,
null clears only optional values, lists and documents, unknown keys are skipped,
keys match in any case, fixed arrays are cut or padded. The first mismatch is
reported.
-/

namespace JuryCaptions
namespace Json

inductive Shape where
  /-- Text, with the name of its type. -/
  | text (typeName : String)
  /-- A whole number within 64 bits, with the name of its type. -/
  | whole (typeName : String)
  /-- A double. -/
  | double
  /-- A boolean. -/
  | boolean
  /-- A record: its full type name, its short name and its fields by key. -/
  | record (typeName name : String) (fields : List (String × Shape))
  /-- A list of any length. -/
  | list (typeName : String) (elem : Shape)
  /-- An array of fixed length. -/
  | fixed (size : Nat) (typeName : String) (elem : Shape)
  /-- A value that may be absent: null reads as absent. -/
  | optional (inner : Shape)
  /-- Any document; numbers are read as doubles. -/
  | anything
  /-- A map from text keys to any documents. -/
  | dictionary (typeName : String)

inductive Value where
  | text (s : String)
  | whole (n : Int)
  | double (x : Float)
  | boolean (b : Bool)
  | record (fields : List (String × Value))
  | list (items : List Value)
  | absent
  | doc (j : Json)
  deriving Inhabited

def Shape.typeName : Shape → String
  | .text t => t
  | .whole t => t
  | .double => "float64"
  | .boolean => "bool"
  | .record t _ _ => t
  | .list t _ => t
  | .fixed _ t _ => t
  | .optional inner => inner.typeName
  | .anything => "interface \x7b\x7d"
  | .dictionary t => t

/-- One step of the path to a value: a record field or a list position. -/
inductive Step where
  | field (name : String)
  | index (i : Nat)

/-- A value of the wrong kind: what was found, the type wanted, the root record's
short name (empty when the root is no record) and the path from the root. -/
structure Mismatch where
  found : String
  typeName : String
  root : String
  path : List Step

/-- A key as a step of a path, with `~` written `~0` and `/` written `~1`. -/
def escapeKey (k : String) : String := (k.replace "~" "~0").replace "/" "~1"

/-- The message of a mismatch. A path that ends in a record field names the
field; one that ends in a list position names only the place. -/
def Mismatch.message (m : Mismatch) : String :=
  let stepText : Step → String
    | .field n => escapeKey n
    | .index i => toString i
  let place := m.root ++ "." ++ ".".intercalate (m.path.map stepText)
  let into := match m.path.getLast? with
    | none => "Go value"
    | some (.field _) => "Go struct field " ++ place
    | some (.index _) => place
  "json: cannot unmarshal " ++ m.found ++ " into " ++ into ++ " of type " ++ m.typeName

mutual

def Shape.zero : Shape → Value
  | .text _ => .text ""
  | .whole _ => .whole 0
  | .double => .double 0.0
  | .boolean => .boolean false
  | .record _ _ fields => .record (Shape.zeroFields fields)
  | .list _ _ => .list []
  | .fixed n _ elem => .list (List.replicate n elem.zero)
  | .optional _ => .absent
  | .anything => .absent
  | .dictionary _ => .absent

def Shape.zeroFields : List (String × Shape) → List (String × Value)
  | [] => []
  | (k, s) :: rest => (k, s.zero) :: Shape.zeroFields rest

end

def Shape.strip : Shape → Shape
  | .optional inner => inner.strip
  | s => s

/-- Folds a key for matching: ASCII letters to lower case, and the two letters
whose case fold is an ASCII letter (the long s and the Kelvin sign). -/
def foldKey (s : String) : String :=
  String.ofList (s.toList.map fun c =>
    if c.toNat = 0x17F then 's' else if c.toNat = 0x212A then 'k' else c.toLower)

def lastOfEach (ms : List (String × Json)) : List (String × Json) :=
  ms.foldl (fun acc (k, v) => (acc.filter (·.1 != k)) ++ [(k, v)]) []

mutual

/-- A document with numbers as doubles and keys in order, each once with its last
value; fails with the first number out of range and its path. -/
def normalizeAny : Json → Except (String × List Step) Json
  | .num lit =>
    let (x, err) := NumberText.readFloat lit
    if err.isSome then .error (lit, []) else .ok (.float x)
  | .arr xs => do
    let ys ← normalizeItems 0 xs
    pure (.arr ys)
  | .obj ms => do
    let ms' ← normalizeMembers ms
    pure (.obj ((lastOfEach ms').mergeSort fun a b => decide (a.1 ≤ b.1)))
  | other => .ok other

/-- Normalizes the items of an array from position `i` on. -/
def normalizeItems (i : Nat) : List Json → Except (String × List Step) (List Json)
  | [] => .ok []
  | x :: xs => do
    let y ← (normalizeAny x).mapError fun (lit, path) => (lit, .index i :: path)
    let ys ← normalizeItems (i + 1) xs
    pure (y :: ys)

def normalizeMembers : List (String × Json) → Except (String × List Step) (List (String × Json))
  | [] => .ok []
  | (k, v) :: ms => do
    let v' ← (normalizeAny v).mapError fun (lit, path) => (lit, .field k :: path)
    let ms' ← normalizeMembers ms
    pure ((k, v') :: ms')

end

/-- A reading in progress: the first mismatch so far. -/
abbrev Decoding := StateM (Option Mismatch)

def note (m : Mismatch) : Decoding Unit :=
  modify fun prev => prev <|> some m

def Value.items : Value → List Value
  | .list xs => xs
  | _ => []

/-- A value read from a document of the wrong kind: as it was, an absent
optional value made present at its zero. -/
def Shape.kept (shape : Shape) (cur : Value) : Value :=
  match shape, cur with
  | .optional inner, .absent => inner.strip.zero
  | _, _ => cur

/-- What a value becomes when null is read into it: an optional value, a list
or any document is cleared, every other value stays as it was. -/
def Shape.nulled (shape : Shape) (cur : Value) : Value :=
  match shape with
  | .optional _ | .anything | .dictionary _ => .absent
  | .list _ _ => .list []
  | _ => cur

/-- The value a document of the right kind is read into: the one there, or the
zero of the shape for an absent optional value. -/
def Shape.base (shape : Shape) (cur : Value) : Value :=
  match cur with
  | .absent => shape.strip.zero
  | v => v

mutual

/-- Reads a document into a shape, at a path below a root record, over the
value `cur` already there. -/
def decodeAt (root : String) (path : List Step) (shape : Shape) (cur : Value) : Json → Decoding Value
  | .null => pure (shape.nulled cur)
  | .str s => match shape.strip with
    | .text _ => pure (.text s)
    | .anything => pure (.doc (.str s))
    | other => do note ⟨"string", other.typeName, root, path⟩; pure (shape.kept cur)
  | .bool b => match shape.strip with
    | .boolean => pure (.boolean b)
    | .anything => pure (.doc (.bool b))
    | other => do note ⟨"bool", other.typeName, root, path⟩; pure (shape.kept cur)
  | .num lit => match shape.strip with
    | .whole t =>
      match NumberText.readInt lit with
      | some n =>
        if -(9223372036854775808 : Int) ≤ n ∧ n < 9223372036854775808 then pure (.whole n)
        else do note ⟨"number " ++ lit, t, root, path⟩; pure (shape.kept cur)
      | none => do note ⟨"number " ++ lit, t, root, path⟩; pure (shape.kept cur)
    | .double =>
      let (x, err) := NumberText.readFloat lit
      if err.isSome then do note ⟨"number " ++ lit, "float64", root, path⟩; pure (shape.kept cur)
      else pure (.double x)
    | .anything =>
      let (x, err) := NumberText.readFloat lit
      if err.isSome then do note ⟨"number " ++ lit, "float64", root, path⟩; pure .absent
      else pure (.doc (.float x))
    | other => do note ⟨"number", other.typeName, root, path⟩; pure (shape.kept cur)
  | .arr xs => match shape.strip with
    | .list _ elem => do
      let ys ← decodeItems root path elem 0 xs.length (shape.base cur).items xs
      pure (.list ys)
    | .fixed size _ elem => do
      let ys ← decodeItems root path elem 0 size (shape.base cur).items xs
      pure (.list (ys ++ List.replicate (size - ys.length) elem.zero))
    | .anything =>
      match normalizeAny (.arr xs) with
      | .ok d => pure (.doc d)
      | .error (lit, inner) => do note ⟨"number " ++ lit, "float64", root, path ++ inner⟩; pure .absent
    | other => do note ⟨"array", other.typeName, root, path⟩; pure (shape.kept cur)
  | .obj ms => match shape.strip with
    | .record _ _ fields =>
      let start := match shape.base cur with
        | .record fs => fs
        | _ => Shape.zeroFields fields
      decodeMembers root path fields ms start
    | .anything | .dictionary _ =>
      match normalizeAny (.obj ms) with
      | .ok d => pure (.doc d)
      | .error (lit, inner) => do note ⟨"number " ++ lit, "float64", root, path ++ inner⟩; pure .absent
    | other => do note ⟨"object", other.typeName, root, path⟩; pure (shape.kept cur)

/-- Reads the members of an object into the fields of a record, each over the
field's value so far. -/
def decodeMembers (root : String) (path : List Step) (fields : List (String × Shape)) :
    List (String × Json) → List (String × Value) → Decoding Value
  | [], acc => pure (.record acc)
  | (key, v) :: rest, acc =>
    match fields.find? (fun (k, _) => k == key) <|> fields.find? (fun (k, _) => foldKey k == foldKey key) with
    | some (k, s) => do
      let old := ((acc.find? (·.1 == k)).map (·.2)).getD s.zero
      let value ← decodeAt root (path ++ [.field key]) s old v
      decodeMembers root path fields rest (acc.map fun (k', prev) => if k' == k then (k', value) else (k', prev))
    | none => decodeMembers root path fields rest acc

/-- Reads the first `room` items of an array, each over the item at its place
in `olds` when there is one; the items past them are skipped unread. -/
def decodeItems (root : String) (path : List Step) (elem : Shape) (i room : Nat) (olds : List Value) :
    List Json → Decoding (List Value)
  | [] => pure []
  | x :: xs =>
    if room = 0 then pure []
    else do
      let y ← decodeAt root (path ++ [.index i]) elem (olds.headD elem.zero) x
      let ys ← decodeItems root path elem (i + 1) (room - 1) olds.tail xs
      pure (y :: ys)

end

inductive DecodeError where
  | malformed (e : SyntaxError)
  | mismatch (m : Mismatch)

def DecodeError.message : DecodeError → String
  | .malformed e => e.message
  | .mismatch m => m.message

/-- Reads a document into a shape: the first mismatch fails the reading. -/
def decodeDoc (j : Json) (shape : Shape) : Except DecodeError Value :=
  let root := match shape with
    | .record _ n _ => n
    | _ => ""
  let (v, err) := (decodeAt root [] shape shape.zero j).run none
  match err with
  | some m => .error (.mismatch m)
  | none => .ok v

/-- Reads bytes into a shape: they must be one document. -/
def decodeBytes (bs : List UInt8) (shape : Shape) : Except DecodeError Value :=
  match parseBytes bs with
  | .error e => .error (.malformed e)
  | .ok j => decodeDoc j shape

def decodeText (s : String) (shape : Shape) : Except DecodeError Value :=
  decodeBytes (Utf8.encode s) shape

namespace Value

def get (v : Value) (key : String) : Value :=
  match v with
  | .record fs => ((fs.find? (·.1 == key)).map (·.2)).getD .absent
  | _ => .absent

def str : Value → String
  | .text s => s
  | _ => ""

def int : Value → Int
  | .whole n => n
  | _ => 0

def float : Value → Float
  | .double x => x
  | _ => 0.0

def bool : Value → Bool
  | .boolean b => b
  | _ => false

def optStr : Value → Option String
  | .text s => some s
  | _ => none

end Value

end Json
end JuryCaptions
