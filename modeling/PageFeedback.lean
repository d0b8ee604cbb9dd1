import PageFeedback.CommandLine.Run
import PageFeedback.Http.ErrorReply
import PageFeedback.Main
import PageFeedback.Proofs.Http.ErrorContract
import PageFeedback.Proofs.Page.Automaton
import PageFeedback.Proofs.Page.Separation
import PageFeedback.Proofs.Page.Toasts
import PageFeedback.Proofs.Progress.Range
import PageFeedback.Proofs.Binary64.Sum
import PageFeedback.Proofs.Replay.Consistency
import PageFeedback.Proofs.Replay.Live
import PageFeedback.Proofs.Replay.ReportText
import PageFeedback.Proofs.Settings.Partial
import PageFeedback.Proofs.Toast.Custody
import PageFeedback.Proofs.Transcript.RoundTrip
import PageFeedback.Proofs.Transcript.Parts
import PageFeedback.Proofs.Headers
import PageFeedback.Proofs.Json.Grammar
import PageFeedback.Proofs.Json.Normal
import PageFeedback.Proofs.Page.Swap
import PageFeedback.Proofs.CommandLine.Replay
import PageFeedback.Proofs.Toast.Expiry
import PageFeedback.Proofs.Toast.Pauses
import PageFeedback.Proofs.Progress.Creep
import PageFeedback.Proofs.Progress.Rest
import PageFeedback.Proofs.Event
