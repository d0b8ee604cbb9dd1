import PageFeedback.Event
import PageFeedback.Json.Reader
import PageFeedback.Settings.Basic
import PageFeedback.Toast.Queue
import PageFeedback.Transaction

set_option autoImplicit false

namespace PageFeedback

inductive Suppression
  | message (text : String)
  | silent
  | malformedBody (reason : String)
deriving DecidableEq, Repr

def Suppression.toJson : Suppression → Json
  | message text => .object [("kind", .string "message"), ("detail", .string text)]
  | silent => .object [("kind", .string "silent")]
  | malformedBody reason =>
      .object [("kind", .string "malformed_body"), ("detail", .string reason)]

inductive Reaction
  | progressStarted
  | progressAlreadyRunning
  | progressKeptForRedirect
  | progressFinished
  | progressIdle
  | networkErrorShown (text : String)
  | swapAllowed
  | swapSuppressed (suppression : Suppression)
deriving DecidableEq, Repr

namespace Reaction

def isSwapSuppressed : Reaction → Bool
  | swapSuppressed _ => true
  | _ => false

def toastText : Reaction → Option String
  | networkErrorShown text => some text
  | swapSuppressed (.message text) => some text
  | _ => none

def describe : Reaction → String
  | progressStarted => "progress started"
  | progressAlreadyRunning => "progress already running"
  | progressKeptForRedirect => "progress kept for redirect"
  | progressFinished => "progress finished"
  | progressIdle => "progress idle"
  | networkErrorShown text => s!"network error toast: {text}"
  | swapAllowed => "swap"
  | swapSuppressed (.message text) => s!"swap suppressed, toast: {text}"
  | swapSuppressed .silent => "swap suppressed"
  | swapSuppressed (.malformedBody _) => "swap suppressed, body not JSON"

def label : Reaction → String
  | progressStarted => "progress_started"
  | progressAlreadyRunning => "progress_already_running"
  | progressKeptForRedirect => "progress_kept_for_redirect"
  | progressFinished => "progress_finished"
  | progressIdle => "progress_idle"
  | networkErrorShown _ => "network_error_shown"
  | swapAllowed => "swap_allowed"
  | swapSuppressed _ => "swap_suppressed"

def detail? : Reaction → Option Json
  | networkErrorShown text => some (.string text)
  | swapSuppressed suppression => some suppression.toJson
  | _ => none

def toJson (reaction : Reaction) : Json :=
  .object (("reaction", .string reaction.label) ::
    (reaction.detail?.map fun detail => ("detail", detail)).toList)

end Reaction

def errorMessage : Json → Option String
  | .null => none
  | .bool false => none
  | .string text => if text = "" then none else some text
  | .number value =>
      if value.toBinary64.isZero then none else some (Json.compactText (.number value))
  | other => some other.compactText

structure Coordinator (P T : Type) where
  settings : FeedbackSettings
  progress : P
  toasts : T

namespace Coordinator

def ofSettings (settings : FeedbackSettings) : Coordinator ProgressBar ToastQueue :=
  ⟨settings, ProgressBar.new settings.progress, ToastQueue.empty⟩

section

variable {P T : Type} [ProgressIndicator P] [ToastSink T]

def beforeSend (coordinator : Coordinator P T) : Coordinator P T × Reaction :=
  if ProgressIndicator.isStarted coordinator.progress then (coordinator, .progressAlreadyRunning)
  else
    ({ coordinator with progress := ProgressIndicator.start coordinator.progress }, .progressStarted)

def afterRequest (coordinator : Coordinator P T) (transaction : Transaction) :
    Coordinator P T × Reaction :=
  if transaction.hasHeader coordinator.settings.swap.redirectHeader then
    (coordinator, .progressKeptForRedirect)
  else if ProgressIndicator.isStarted coordinator.progress then
    ({ coordinator with progress := ProgressIndicator.done coordinator.progress }, .progressFinished)
  else (coordinator, .progressIdle)

def warn (coordinator : Coordinator P T) (text : String) : Coordinator P T :=
  let toast := Toast.warning text coordinator.settings.toast
  { coordinator with toasts := ToastSink.present toast coordinator.toasts }

def sendError (coordinator : Coordinator P T) : Coordinator P T × Reaction :=
  let text := coordinator.settings.toast.networkErrorText
  (coordinator.warn text, .networkErrorShown text)

def suppressionOf (body : String) : Suppression :=
  match Json.parse body with
  | .error error => .malformedBody error.message
  | .ok value =>
      match (value.member? "error").bind errorMessage with
      | some text => .message text
      | none => .silent

def beforeSwap (coordinator : Coordinator P T) (detail : EventDetail) :
    Coordinator P T × EventDetail × Reaction :=
  if coordinator.settings.swap.policy.suppresses detail.transaction.status then
    let suppression := suppressionOf detail.transaction.responseText
    let after := match suppression with
      | .message text => coordinator.warn text
      | _ => coordinator
    (after, { detail with shouldSwap := false }, .swapSuppressed suppression)
  else (coordinator, detail, .swapAllowed)

def handle (coordinator : Coordinator P T) (event : LifecycleEvent) (detail : EventDetail) :
    Coordinator P T × EventDetail × Reaction :=
  match event with
  | .beforeSend =>
      let (after, reaction) := coordinator.beforeSend
      (after, detail, reaction)
  | .afterRequest =>
      let (after, reaction) := coordinator.afterRequest detail.transaction
      (after, detail, reaction)
  | .sendError =>
      let (after, reaction) := coordinator.sendError
      (after, detail, reaction)
  | .beforeSwap => coordinator.beforeSwap detail

end

end Coordinator

end PageFeedback
