/-!
Permission bits and the changes `chmod` and `mkdir -m` make: an octal number
(a directory keeping set-ID bits it does not set) or clauses such as `u+x,go=r`.
-/

namespace JuryCaptions
namespace Mode

def allBits : Nat := 0o7777

def permissionBits : Nat := 0o777

/-- What one operation of a change does besides its bits. -/
inductive ChangeKind where
  | ordinary
  /-- Copies the bits of a class of the same file. -/
  | copy
  /-- Gives execute permission only to a directory or to a file that some
  class may already execute. -/
  | executeIfAny
  deriving BEq, Repr

/-- One operation of a change: `+`, `-` or `=`, the bits of the classes it
names (none when it names no class), its value and the bits it mentions. -/
structure ModeOp where
  op : Char
  kind : ChangeKind
  affected : Nat
  value : Nat
  mentioned : Nat
  deriving Repr

def classBits : Char → Nat
  | 'u' => 0o4700
  | 'g' => 0o2070
  | 'o' => 0o1007
  | _ => allBits

def permissionValue : Char → Nat
  | 'r' => 0o444
  | 'w' => 0o222
  | 'x' | 'X' => 0o111
  | 's' => 0o6000
  | 't' => 0o1000
  | _ => 0

/-- Reads the operations of one clause after its classes: each an operator
and either a class to copy or permission letters. -/
def readOps (affected : Nat) : Nat → List Char → Option (List ModeOp × List Char)
  | 0, _ => none
  | f + 1, op :: rest =>
    if op != '+' && op != '-' && op != '=' then some ([], op :: rest)
    else
      let (kind, value, rest) : ChangeKind × Nat × List Char := match rest with
        | 'u' :: more => (.copy, 0o700, more)
        | 'g' :: more => (.copy, 0o070, more)
        | 'o' :: more => (.copy, 0o007, more)
        | _ =>
          let perms := rest.takeWhile ("rwxXst".toList.contains ·)
          (if perms.contains 'X' then .executeIfAny else .ordinary,
            perms.foldl (fun v c => v ||| permissionValue c) 0, rest.drop perms.length)
      let mentioned := if affected != 0 then affected &&& value else value
      (readOps affected f rest).map fun (ops, after) => ({ op, kind, affected, value, mentioned } :: ops, after)
  | _ + 1, [] => some ([], [])

def readClauses : Nat → List Char → Option (List ModeOp)
  | 0, _ => none
  | f + 1, cs =>
    let who := cs.takeWhile ("ugoa".toList.contains ·)
    let affected := who.foldl (fun a c => a ||| classBits c) 0
    let rest := cs.drop who.length
    if !(rest.head?.any fun c => c == '+' || c == '-' || c == '=') then none
    else match readOps affected (rest.length + 1) rest with
      | some (ops, []) => some ops
      | some (ops, ',' :: more) => (readClauses f more).map (ops ++ ·)
      | _ => none

/-- Reads a mode of `chmod`: an octal number up to `7777` or symbolic
clauses; none when it is neither. -/
def parse (s : String) : Option (List ModeOp) :=
  let cs := s.toList
  if cs.head?.any fun c => '0' ≤ c && c ≤ '7' then
    if !cs.all fun c => '0' ≤ c && c ≤ '7' then none
    else
      let v := cs.foldl (fun n c => 8 * n + (c.toNat - 48)) 0
      if v > allBits then none
      else
        let mentioned := if cs.length < 5 then (v &&& 0o6000) ||| 0o1000 ||| permissionBits else allBits
        some [{ op := '=', kind := .ordinary, affected := allBits, value := v, mentioned }]
  else readClauses (cs.length + 1) cs

def applyOp (dir : Bool) (umask : Nat) (mode : Nat) (c : ModeOp) : Nat :=
  let omitted := (if dir then 0o6000 else 0) &&& (allBits ^^^ c.mentioned)
  let value := match c.kind with
    | .ordinary => c.value
    | .copy =>
      let v := c.value &&& mode
      v ||| (if v &&& 0o444 != 0 then 0o444 else 0) ||| (if v &&& 0o222 != 0 then 0o222 else 0) |||
        (if v &&& 0o111 != 0 then 0o111 else 0)
    | .executeIfAny => if dir || mode &&& 0o111 != 0 then c.value else c.value &&& (allBits ^^^ 0o111)
  let value := value &&& (if c.affected != 0 then c.affected else allBits ^^^ umask) &&& (allBits ^^^ omitted)
  match c.op with
  | '=' =>
    let preserved := (if c.affected != 0 then allBits ^^^ c.affected else umask) ||| omitted
    (mode &&& preserved) ||| value
  | '+' => mode ||| value
  | _ => mode &&& (allBits ^^^ value)

def adjust (dir : Bool) (umask : Nat) (mode : Nat) (ops : List ModeOp) : Nat :=
  ops.foldl (applyOp dir umask) (mode &&& allBits)

/-- The nine letters of the permissions of a mode, as `ls -l` shows them after
the kind: `s` or `S` for a set-ID bit with or without execute, `t` or `T` for
the sticky bit. -/
def letters (mode : Nat) : String :=
  let bit (b : Nat) (c : Char) : Char := if mode &&& b != 0 then c else '-'
  let special (b x : Nat) (on off plain : Char) : Char :=
    if mode &&& b != 0 then (if mode &&& x != 0 then on else off) else bit x plain
  String.ofList [bit 0o400 'r', bit 0o200 'w', special 0o4000 0o100 's' 'S' 'x',
    bit 0o40 'r', bit 0o20 'w', special 0o2000 0o10 's' 'S' 'x',
    bit 0o4 'r', bit 0o2 'w', special 0o1000 0o1 't' 'T' 'x']

def octal (mode : Nat) : String :=
  String.ofList ((List.range 4).reverse.map fun k => Char.ofNat (48 + mode / Nat.pow 8 k % 8))

end Mode
end JuryCaptions
