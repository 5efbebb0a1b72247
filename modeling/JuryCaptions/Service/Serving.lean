import JuryCaptions.Service.Video
import JuryCaptions.Service.Stream
import JuryCaptions.Serving.Session
/-!
Serving one caption session to glasses connected through a pipe, with
stand-ins for the recorder, the uploader, the focus source and the playback.
-/

namespace JuryCaptions
namespace Service

open Serving

/-- The unique id every served session gets: any id of the usual length. -/
def servedSessionId : String := "00000000-0000-4000-8000-000000000000"

def Req.playback (r : Json) : Handled (Serving.Playback × Files) := do
  if !r.has "playback" then return (.none, scratchFiles)
  let p ← Req.obj r "playback"
  if p.has "fake" then
    let fake ← Req.str p "fake"
    match fake with
    | "prepare_error" => pure (.standIn { prepare := some (.plain "prepare failed") }, scratchFiles)
    | "release_error" => pure (.standIn { release := some (.plain "release failed") }, scratchFiles)
    | "wait_error" => pure (.standIn { wait := some (.plain "wait failed") }, scratchFiles)
    | other => throw (unknown "fake playback" other)
  else
    let names ← Req.strs p "files"
    let (player, args) ← Req.player p notingScript
    let files := names.foldl (fun fs n => fs.create (scratchRoot ++ "/" ++ n) "" false) scratchFiles
    let videos := names.map (scratchRoot ++ "/" ++ ·)
    pure (.launcher { player := player, args := args, videos := videos }, files)

def Req.failure (r : Json) (key : String) : Handled (Option String) := do
  let s ← Req.str r key
  pure (if s.isEmpty then none else some s)

def serverServeOp (r : Json) : Handled Json := do
  let captions ← Req.captions r "captions"
  let methodCode ← Req.intD r "rendering_method" 2
  let captionsFile ← Req.str r "captions_file"
  let frameSetting ← Req.int r "max_frame_size"
  let waitForOperator ← Req.bool r "wait_for_operator"
  let operator ← if r.has "operator" then some <$> Req.str r "operator" else pure none
  let sourceName ← Req.str r "source_name"
  let startFailure ← Req.failure r "start_error"
  let endFailure ← Req.failure r "end_error"
  let uploadable ← Req.bool r "uploadable"
  let exportPath ← Req.str r "export_path"
  let upload ← Req.bool r "upload"
  let uploadFailure ← Req.failure r "upload_error"
  let focus ← Req.strs r "focus"
  let focusSourceFailure ← Req.failure r "focus_source_error"
  let focusFailure ← Req.failure r "focus_error"
  if captions.length > 1 then throw (badInput "at most one caption")
  if captions.any (fun c => !(c.delay ≥ 0.0 && c.delay ≤ 100.0)) then
    throw (badInput "the caption delay must be 0..100 ms")
  if (r.has "focus" || focusSourceFailure.isSome) && captions.any (fun c => !(c.delay ≥ 50.0 && c.delay ≤ 100.0)) then
    throw (badInput "with focus input the caption delay must be 50..100 ms")
  let (playback, files) ← Req.playback r
  match RenderingMethod.parse methodCode with
  | .error f => pure (faultJson f)
  | .ok method =>
    if captions.isEmpty then return faultJson ⟨.noCaptions, "no captions"⟩
    let setup : Setup := {
      method := method
      captions := captions
      captionsFile := captionsFile
      sourceName := sourceName
      frameLimit := Frame.limitOf frameSetting
      waitForOperator := waitForOperator
      operator := operator
      focus := focus
      focusFailure := focusSourceFailure
      recorder := {
        startFailure := startFailure
        endFailure := endFailure
        focusFailure := focusFailure
        export? := if uploadable then some exportPath else none }
      uploader := if upload then some uploadFailure else none
      playback := playback
      files := files
      cwd := scratchRoot
      uuid := servedSessionId
      clientAddr := "pipe" }
    let rep := serve setup
    let sessionJson := rep.session.map fun (s : Session) => Json.obj [("method", .str s.method.name),
      ("captions_file", .str s.captionsFile), ("focus_source", .str s.focusSource),
      ("client_addr", .str s.clientAddr), ("uuid_len", .nat s.uuid.length)]
    let played := match playback with
      | .none => []
      | _ => [("played", Json.strs ((playedLines rep.files).mergeSort fun a b => decide (a ≤ b)))]
    let sortLines (f : Fault) : Fault :=
      { f with message := "\n".intercalate ((f.message.splitOn "\n").mergeSort fun a b => decide (a ≤ b)) }
    let logs := rep.logs.map fun (l : LogRecord) =>
      if l.msg == "Video playback failed" then
        { l with attrs := l.attrs.map fun (k, v) => match v with
          | .str t => (k, Json.str (sortLines (.plain t)).message)
          | other => (k, other) }
      else l
    pure (showScratch (answer ([("output", .str rep.output),
      ("received", .arr (rep.received.map CaptionMessage.toJson)), ("ended", .nat rep.ended)] ++
      Json.optField "session" sessionJson ++
      [("recorded_captions", .arr (rep.recordedCaptions.map CaptionMessage.toJson)),
       ("recorded_focus", .arr (rep.recordedFocus.map fun (f, src) =>
         Json.obj [("focused", .str f), ("source", .str src)])),
       ("logs", logsJson .warn logs),
       ("uploads", .arr (rep.uploads.map fun (p, n) => Json.obj [("captions", .nat n), ("path", .str p)]))] ++
      Json.optField "error" (rep.failure.map faultJson) ++ played)))

end Service
end JuryCaptions
