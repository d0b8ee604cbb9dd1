import PageFeedback.Binary64.Text
import PageFeedback.Progress
import PageFeedback.Text.Blank
import PageFeedback.Toast.Basic

set_option autoImplicit false

namespace PageFeedback

inductive SwapPolicy
  | okOnly
  | aboveOk
  | nonSuccess
deriving DecidableEq, Repr

namespace SwapPolicy

def all : List SwapPolicy := [okOnly, aboveOk, nonSuccess]

def label : SwapPolicy → String
  | okOnly => "ok_only"
  | aboveOk => "above_ok"
  | nonSuccess => "non_success"

def labelled : List (String × SwapPolicy) := all.map fun policy => (policy.label, policy)

def suppresses (policy : SwapPolicy) (status : UInt16) : Bool :=
  match policy with
  | okOnly => status ≠ 200
  | aboveOk => 200 < status
  | nonSuccess => status < 200 || 299 < status

end SwapPolicy

structure SwapSettings where
  policy : SwapPolicy
  redirectHeader : String
deriving DecidableEq

def SwapSettings.default : SwapSettings := ⟨.okOnly, "HX-Location"⟩

structure FeedbackSettings where
  progress : ProgressSettings
  toast : ToastSettings
  swap : SwapSettings
deriving DecidableEq

inductive InvalidSetting
  | minimumOutside (minimum : Binary64)
  | emptyHeader
  | emptyMessage
deriving DecidableEq

namespace InvalidSetting

def field : InvalidSetting → String
  | minimumOutside _ => "progress.minimum"
  | emptyHeader => "swap.redirect_header"
  | emptyMessage => "toast.network_error_text"

def reason : InvalidSetting → String
  | minimumOutside minimum => s!"{String.ofList minimum.plain} is outside [0, 1)"
  | emptyHeader => "header name is empty"
  | emptyMessage => "message is empty"

def message (invalid : InvalidSetting) : String :=
  s!"invalid setting `{invalid.field}`: {invalid.reason}"

end InvalidSetting

namespace FeedbackSettings

def default : FeedbackSettings :=
  ⟨ProgressSettings.default, ToastSettings.default, SwapSettings.default⟩

def validate (settings : FeedbackSettings) : Except InvalidSetting Unit :=
  let minimum := settings.progress.minimum
  if ¬ (Binary64.zero ≤ minimum ∧ minimum < Binary64.one) then .error (.minimumOutside minimum)
  else if Text.isBlankText settings.swap.redirectHeader then .error .emptyHeader
  else if Text.isBlankText settings.toast.networkErrorText then .error .emptyMessage
  else .ok ()

end FeedbackSettings

end PageFeedback
