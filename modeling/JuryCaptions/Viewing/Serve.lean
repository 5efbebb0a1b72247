import JuryCaptions.Viewing.Viewer
/-!
Serving a viewing session: the recorded session is started, then the scene is
served while frames run. A frame rate that is not positive stops at once,
closing the dispatcher and ending the session.
-/

namespace JuryCaptions
namespace Viewing

inductive RecorderCall where
  /-- A session starts, with its rendering method and focus source. -/
  | start (method : RenderingMethod) (focusSource : String)
  /-- The session ends. -/
  | finish
  deriving Repr, Inhabited

/-- The recorder attached to a served session: its rendering method and the
failures of starting and ending the session, if they fail. -/
structure ServeRecorder where
  method : RenderingMethod
  startFailure : Option String := none
  endFailure : Option String := none
  deriving Repr, Inhabited

/-- How serving ended: the calls on the recorder, the failure, and whether the
dispatcher was closed. -/
structure Served where
  calls : List RecorderCall
  failure : Option Fault
  closed : Bool
  deriving Inhabited

namespace Viewer

def focusSource : String := "viewer"

def serve (v : Viewer) (recorder : Option ServeRecorder) : Option Served :=
  let started := recorder.map fun r => RecorderCall.start r.method focusSource
  match recorder.bind (·.startFailure) with
  | some e => some { calls := started.toList, failure := some (.plain ("starting session: " ++ e)), closed := false }
  | none =>
    match checkRate v.fps with
    | .ok () => none
    | .error f =>
      let (calls, failure) := match recorder with
        | none => ([], f.message)
        | some r =>
          (started.toList ++ [.finish], match r.endFailure with
            | some e => f.message ++ "\nending session: " ++ e
            | none => f.message)
      some { calls := calls, failure := some (.plain failure), closed := true }

end Viewer

end Viewing
end JuryCaptions
