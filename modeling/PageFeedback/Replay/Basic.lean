import PageFeedback.Coordinator
import PageFeedback.Transcript

set_option autoImplicit false

namespace PageFeedback

structure ReplayStep where
  line : Nat
  event : LifecycleEvent
  status : UInt16
  reaction : Reaction
  shouldSwap : Bool
  progressRunning : Bool
deriving DecidableEq

namespace ReplayStep

def toJson (step : ReplayStep) : Json :=
  .object [("line", .number (.integer (.ofNat step.line))),
    ("event", .string step.event.domName),
    ("status", .number (.integer (.ofUInt16 step.status))),
    ("reaction", step.reaction.toJson),
    ("should_swap", .bool step.shouldSwap),
    ("progress_running", .bool step.progressRunning)]

end ReplayStep

namespace Coordinator

section

variable {P T : Type} [ProgressIndicator P] [ToastSink T]

def replayEntry (coordinator : Coordinator P T) (entry : TranscriptEntry) :
    Coordinator P T × ReplayStep :=
  let (after, detail, reaction) :=
    coordinator.handle entry.event (EventDetail.ofTransaction entry.transaction)
  (after, {
    line := entry.line
    event := entry.event
    status := entry.transaction.status
    reaction
    shouldSwap := detail.shouldSwap
    progressRunning := ProgressIndicator.isStarted after.progress })

def replay (coordinator : Coordinator P T) :
    List TranscriptEntry → Coordinator P T × List ReplayStep
  | [] => (coordinator, [])
  | entry :: entries =>
      let (next, step) := coordinator.replayEntry entry
      let (last, steps) := next.replay entries
      (last, step :: steps)

end

structure LiveStep where
  step : ReplayStep
  expired : List Toast
deriving DecidableEq

def pass (coordinator : Coordinator TerminalBar ToastQueue) (pause : Duration) :
    Coordinator TerminalBar ToastQueue × List Toast :=
  let (toasts, expired) := coordinator.toasts.advance pause
  ({ coordinator with progress := coordinator.progress.tick, toasts }, expired)

def replayLive (coordinator : Coordinator TerminalBar ToastQueue) (pause : Duration) :
    List TranscriptEntry → Coordinator TerminalBar ToastQueue × List LiveStep
  | [] => (coordinator, [])
  | entry :: entries =>
      let (handled, step) := coordinator.replayEntry entry
      let (next, expired) := handled.pass pause
      let (last, steps) := next.replayLive pause entries
      (last, ⟨step, expired⟩ :: steps)

end Coordinator

def Coordinator.ofTerminal (settings : FeedbackSettings) : Coordinator TerminalBar ToastQueue :=
  ⟨settings, TerminalBar.new settings.progress, ToastQueue.empty⟩

end PageFeedback
