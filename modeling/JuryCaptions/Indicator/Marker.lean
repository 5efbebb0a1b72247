import JuryCaptions.Indicator.Aim
import JuryCaptions.Log
import JuryCaptions.Jury.Juror
/-!
Keeping a marker pointed at its speaker, coloured by whether it is active.
Nothing is written while no speaker is set or its position is unknown; such a
gap is warned about at its first frame.
-/

namespace JuryCaptions
namespace Indicator

inductive MarkerWrite where
  | rotation (q : Quat)
  | color (c : String)
  deriving Repr, Inhabited

/-- The marker's settings and the speakers whose positions are missing. -/
structure Updater where
  offset : Offset := Offset.none
  colors : Colors := Colors.gold
  missing : List SpeakerId := []
  deriving Repr, Inhabited

structure Tick where
  updater : Updater
  writes : List MarkerWrite
  logs : List LogRecord
  wrote : Bool

namespace Updater

/-- One frame: points the marker from `anchor` at `speaker`, whose position
`resolve` gives, coloured by `active`. -/
def tick (u : Updater) (speaker : SpeakerId) (active : Bool) (anchor : Vec3)
    (resolve : SpeakerId → Option Vec3) : Tick :=
  if !SpeakerId.isSet speaker then ⟨u, [], [], false⟩
  else match resolve speaker with
    | none =>
      if u.missing.contains speaker then ⟨u, [], [], false⟩
      else
        ⟨{ u with missing := u.missing ++ [speaker] }, [],
          [⟨.warn, "speaker position unresolved, skipping indicator", [("speaker", .str speaker)]⟩], false⟩
    | some target =>
      let (u, logs) := if u.missing.contains speaker then
          ({ u with missing := u.missing.filter (· != speaker) },
            [⟨.debug, "speaker position resolved", [("speaker", .str speaker)]⟩])
        else (u, [])
      let q := u.offset.apply (lookAt anchor target up)
      ⟨u, [.rotation q, .color (u.colors.pick active)], logs, true⟩

end Updater
end Indicator
end JuryCaptions
