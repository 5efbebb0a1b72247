import JuryCaptions.Main
import JuryCaptions.Service.Answer
import JuryCaptions.Proofs.Bridge.Convergence
import JuryCaptions.Proofs.Caption.Wrap
import JuryCaptions.Proofs.Transcript.Merge
import JuryCaptions.Proofs.Dispatch.Delivery
import JuryCaptions.Proofs.Focus.Tracking
import JuryCaptions.Proofs.Storage.Sessions
import JuryCaptions.Proofs.Input.KeyMap
import JuryCaptions.Proofs.Viewing.Host
import JuryCaptions.Proofs.Speaker.Registry
import JuryCaptions.Proofs.Indicator.Marker
import JuryCaptions.Proofs.Playback.Rotation
import JuryCaptions.Proofs.Playback.Launch
import JuryCaptions.Proofs.Focus.Serial
