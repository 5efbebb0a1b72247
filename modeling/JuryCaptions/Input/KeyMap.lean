import JuryCaptions.Jury.Juror
import JuryCaptions.Text.Case
/-!
Shortcut keys for the jurors.

A key table binds exactly one lower-case key to each of the four jurors. The
rotation keys `q` and `e` cannot be bound. A table's entries are checked in the
order they are given, which for the program's map is unspecified; its keys are
listed sorted.
-/

namespace JuryCaptions

def rotateLeftKey : String := "q"

def rotateRightKey : String := "e"

inductive KeyMapError where
  | wrongSize (got : Nat)
  | notLowerCase (key : String)
  | reserved (key : String)
  | badJuror (key : String) (cause : Fault)
  | emptyJuror (key : String)
  | duplicate (first second : String) (id : SpeakerId)

namespace KeyMapError

def toFault : KeyMapError → Fault
  | .wrongSize got => .plain ("key map needs 4 entries, got " ++ toString got)
  | .notLowerCase k => .plain ("key " ++ Quote.quoted k ++ ": key names must be lower case")
  | .reserved k => .plain ("key " ++ Quote.quoted k ++ " is reserved for rotation")
  | .badJuror k e => e.context ("key " ++ Quote.quoted k)
  | .emptyJuror k => .plain ("key " ++ Quote.quoted k ++ ": empty juror")
  | .duplicate a b id => .plain ("keys " ++ Quote.quoted a ++ " and " ++ Quote.quoted b ++ " both map to " ++ id)

end KeyMapError

structure KeyMap where
  bindings : List (String × SpeakerId)
  deriving Repr, Inhabited

namespace KeyMap

/-- Keys 1 to 4 bound to the jurors in seating order. -/
def default : KeyMap :=
  ⟨[("1", Juror.jurorA.id), ("2", Juror.jurorB.id), ("3", Juror.jurorC.id), ("4", Juror.foreman.id)]⟩

def checkEntries : List (String × String) → List (SpeakerId × String) → Except KeyMapError Unit
  | [], _ => .ok ()
  | (key, v) :: rest, seen =>
    if key != Case.lower key then .error (.notLowerCase key)
    else if key == rotateLeftKey || key == rotateRightKey then .error (.reserved key)
    else match SpeakerId.parse v with
      | .error e => .error (.badJuror key e)
      | .ok id =>
        if !SpeakerId.isSet id then .error (.emptyJuror key)
        else match seen.find? (·.1 == id) with
          | some (_, other) => .error (.duplicate other key id)
          | none => checkEntries rest ((id, key) :: seen)

def ofTable (raw : List (String × String)) : Except KeyMapError KeyMap :=
  if raw.length ≠ 4 then .error (.wrongSize raw.length)
  else
    match checkEntries raw [] with
    | .error e => .error e
    | .ok () => .ok ⟨raw⟩

def lookup (k : KeyMap) (key : String) : Option SpeakerId :=
  (k.bindings.find? (·.1 == key)).map (·.2)

def keys (k : KeyMap) : List String := (k.bindings.map (·.1)).mergeSort fun a b => decide (a ≤ b)

end KeyMap
end JuryCaptions
