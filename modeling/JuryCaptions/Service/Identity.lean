import JuryCaptions.Service.Request
import JuryCaptions.Jury.Juror
/-!
Operations on juror ids, rendering methods and connection strings.
-/

namespace JuryCaptions
namespace Service

def resultJson {α : Type} (f : α → Json) : Except Fault α → Json
  | .ok a => f a
  | .error e => faultJson e

def jurorOp (r : Json) : Handled Json := do
  let id ← Req.str r "id"
  pure (answer [("valid", .bool (SpeakerId.isValid id)), ("is_set", .bool (SpeakerId.isSet id)),
    ("index", .int (SpeakerId.index id)), ("parse", resultJson .str (SpeakerId.parse id))])

def jurorFromIndexOp (r : Json) : Handled Json := do
  let i ← Req.int r "index"
  pure (match SpeakerId.ofIndex i with
    | .ok id => answer [("id", .str id)]
    | .error e => faultJson e)

def renderingMethodOp (r : Json) : Handled Json := do
  let m ← Req.int r "method"
  let rm : RenderingMethod := ⟨m⟩
  pure (answer [("valid", .bool rm.isValid), ("name", .str rm.name),
    ("parse", resultJson (fun (x : RenderingMethod) => Json.int x.code) (RenderingMethod.parse m))])

/-- The text the glasses scan to connect: address, port and method. -/
def connectionString (ip : String) (port : Int) (method : RenderingMethod) : String :=
  ip ++ ":" ++ toString port ++ " " ++ toString method.code

def connectionStringOp (r : Json) : Handled Json := do
  let ip ← Req.str r "ip"
  let port ← Req.int r "port"
  let m ← Req.int r "method"
  pure (answer [("value", .str (connectionString ip port ⟨m⟩))])

end Service
end JuryCaptions
