import JuryCaptions.Service.Identity
import JuryCaptions.Service.Captions
import JuryCaptions.Service.Surfaces
import JuryCaptions.Service.Scene
import JuryCaptions.Service.Host
import JuryCaptions.Service.Wire
import JuryCaptions.Service.Viewing
import JuryCaptions.Service.Transcript
import JuryCaptions.Service.Config
import JuryCaptions.Service.Playback
import JuryCaptions.Service.Storage
import JuryCaptions.Service.Pairing
import JuryCaptions.Service.Stream
import JuryCaptions.Service.Video
import JuryCaptions.Service.Serving
import JuryCaptions.Service.Cli
import JuryCaptions.Service.Monitor
import JuryCaptions.Service.Bridge
/-!
The operations of the JSON service, by name, and the line-by-line protocol:
each line of input is one request object and gets one line of answer.
-/

namespace JuryCaptions
namespace Service

def handler? : String → Option (Json → Handled Json)
  | "juror" => some jurorOp
  | "render_qr" => some renderQrOp
  | "streamer" => some streamerOp
  | "player" => some playerOp
  | "launcher" => some launcherOp
  | "rotation" => some rotationOp
  | "cut" => some cutOp
  | "server_serve" => some serverServeOp
  | "cli" => some cliOp
  | "bridge" => some bridgeOp
  | "viewer_serve" => some viewerServeOp
  | "serial_open" => some serialOpenOp
  | "orientation_run" => some orientationRunOp
  | "monitor_run" => some monitorRunOp
  | "cli_client" => some cliClientOp
  | "juror_from_index" => some jurorFromIndexOp
  | "rendering_method" => some renderingMethodOp
  | "connection_string" => some connectionStringOp
  | "timeline_parse" => some timelineParseOp
  | "wrap" => some wrapOp
  | "words" => some wordsOp
  | "caption_message" => some captionMessageOp
  | "server_new" => some serverNewOp
  | "opacity" => some opacityOp
  | "preset" => some presetOp
  | "look_at" => some lookAtOp
  | "rotate" => some rotateOp
  | "caption_set" => some captionSetOp
  | "scene" => some sceneOp
  | "registry" => some registryOp
  | "updater" => some updaterOp
  | "envelope" => some envelopeOp
  | "host_event" => some hostEventOp
  | "keymap" => some keymapOp
  | "dispatcher" => some dispatcherOp
  | "relative" => some relativeOp
  | "classify" => some classifyOp
  | "gaze" => some gazeOp
  | "angle_to_pixel" => some angleToPixelOp
  | "in_view" => some inViewOp
  | "serial_line" => some serialLineOp
  | "serial_read" => some serialReadOp
  | "azimuth_filter" => some azimuthFilterOp
  | "orientation_read" => some orientationReadOp
  | "tracker" => some trackerOp
  | "focus_new" => some focusNewOp
  | "wire_decode" => some wireDecodeOp
  | "wire_encode" => some wireEncodeOp
  | "vtt_merge" => some vttMergeOp
  | "config" => some configOp
  | "blocks" => some blocksOp
  | "convert" => some convertOp
  | "memory" => some memoryOp
  | "sqlite" => some sqliteOp
  | "influx" => some influxOp
  | "storage_factory" => some storageFactoryOp
  | "table_names" => some tableNamesOp
  | "queue" => some queueOp
  | "cut_args" => some cutArgsOp
  | "schedule" => some scheduleOp
  | "mock_next" => some mockNextOp
  | "mock_run" => some mockRunOp
  | "vtt_partition" => some vttPartitionOp
  | "vtt_filename" => some vttFileNameOp
  | "viewer" => some viewerOp
  | "session" => some sessionOp
  | _ => none

def answerRequest (r : Json) : Json :=
  match Req.str r "op" with
  | .error e => e
  | .ok op =>
    match handler? op with
    | none => badInput ("unknown op " ++ op)
    | some h =>
      match h r with
      | .ok a => a
      | .error e => e

def respond (line : String) : String :=
  let a := match Json.parse line with
    | .ok (.obj ms) => answerRequest (.obj ms)
    | _ => badInput "request is not a JSON object"
  Json.render false a

end Service
end JuryCaptions
