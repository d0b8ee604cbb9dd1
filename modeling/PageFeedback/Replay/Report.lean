import PageFeedback.Replay.Basic

set_option autoImplicit false

namespace PageFeedback

structure ReplayReport where
  steps : List ReplayStep
  toasts : List Toast
  progressRunning : Bool
deriving DecidableEq

namespace ReplayReport

def collect {P : Type} [ProgressIndicator P] (coordinator : Coordinator P ToastQueue)
    (steps : List ReplayStep) : ReplayReport :=
  ⟨steps, coordinator.toasts.toasts, ProgressIndicator.isStarted coordinator.progress⟩

def countEvents (report : ReplayReport) (event : LifecycleEvent) : Nat :=
  report.steps.countP fun step => step.event == event

def suppressedSwaps (report : ReplayReport) : Nat :=
  report.steps.countP fun step => step.reaction.isSwapSuppressed

def toJson (report : ReplayReport) : Json :=
  .object [("steps", .array (report.steps.map ReplayStep.toJson)),
    ("toasts", .array (report.toasts.map Toast.toJson)),
    ("progress_running", .bool report.progressRunning)]

def ofEntries (settings : FeedbackSettings) (entries : List TranscriptEntry) : ReplayReport :=
  let (last, steps) := (Coordinator.ofSettings settings).replay entries
  collect last steps

def ofLive (settings : FeedbackSettings) (pause : Duration) (entries : List TranscriptEntry) :
    ReplayReport :=
  let (last, steps) := (Coordinator.ofTerminal settings).replayLive pause entries
  collect last (steps.map (·.step))

end ReplayReport

end PageFeedback
