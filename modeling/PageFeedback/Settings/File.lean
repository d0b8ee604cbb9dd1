import PageFeedback.Files
import PageFeedback.Settings.Basic
import PageFeedback.Text.Utf8
import PageFeedback.Toml.Decoder
import PageFeedback.Toml.Printer
import PageFeedback.Toml.Reader

set_option autoImplicit false

namespace PageFeedback

inductive SettingsFault
  | unreadable (fault : FileFault)
  | notToml
  | misfit (cause : Toml.Misfit)
  | invalid (setting : InvalidSetting)
deriving DecidableEq

-- `syntaxFault` is what is said of a text that is no TOML document.
def SettingsFault.message (syntaxFault path : String) : SettingsFault → String
  | unreadable fault => fault.message
  | notToml => s!"invalid settings in {path}: {syntaxFault}"
  | misfit cause => s!"invalid settings in {path}: {cause.message}"
  | invalid setting => setting.message

namespace ProgressSettings

def record : Toml.Record ProgressSettings where
  name := "ProgressSettings"
  blank := default
  fields := [
    .of "minimum" Toml.binary64? fun settings minimum => { settings with minimum },
    .of "trickle" Toml.bool? fun settings trickle => { settings with trickle },
    .of "show_spinner" Toml.bool? fun settings showSpinner => { settings with showSpinner }]

def tomlSection (settings : ProgressSettings) : Toml.Section :=
  ⟨"progress", [("minimum", .float settings.minimum), ("trickle", .boolean settings.trickle),
    ("show_spinner", .boolean settings.showSpinner)]⟩

end ProgressSettings

namespace ToastSettings

def record : Toml.Record ToastSettings where
  name := "ToastSettings"
  blank := default
  fields := [
    .of "network_error_text" Toml.string? fun settings networkErrorText =>
      { settings with networkErrorText },
    .of "background" Toml.string? fun settings background => { settings with background },
    .of "gravity" (Toml.choice? Gravity.labelled) fun settings gravity => { settings with gravity },
    .of "position" (Toml.choice? Position.labelled) fun settings position => { settings with position },
    .of "close" Toml.bool? fun settings close => { settings with close },
    .of "stop_on_focus" Toml.bool? fun settings stopOnFocus => { settings with stopOnFocus },
    .of "new_window" Toml.bool? fun settings newWindow => { settings with newWindow },
    .of "duration_ms" Toml.uint64? fun settings durationMs => { settings with durationMs }]

def tomlSection (settings : ToastSettings) : Toml.Section :=
  ⟨"toast", [("network_error_text", .string settings.networkErrorText),
    ("background", .string settings.background),
    ("gravity", .string settings.gravity.label),
    ("position", .string settings.position.label),
    ("close", .boolean settings.close),
    ("stop_on_focus", .boolean settings.stopOnFocus),
    ("new_window", .boolean settings.newWindow),
    ("duration_ms", .integer settings.durationMs.toNat)]⟩

end ToastSettings

namespace SwapSettings

def record : Toml.Record SwapSettings where
  name := "SwapSettings"
  blank := default
  fields := [
    .of "policy" (Toml.choice? SwapPolicy.labelled) fun settings policy => { settings with policy },
    .of "redirect_header" Toml.string? fun settings redirectHeader => { settings with redirectHeader }]

def tomlSection (settings : SwapSettings) : Toml.Section :=
  ⟨"swap", [("policy", .string settings.policy.label),
    ("redirect_header", .string settings.redirectHeader)]⟩

end SwapSettings

namespace FeedbackSettings

def record : Toml.Record FeedbackSettings where
  name := "FeedbackSettings"
  blank := default
  fields := [
    .of "progress" ProgressSettings.record.read fun settings progress => { settings with progress },
    .of "toast" ToastSettings.record.read fun settings toast => { settings with toast },
    .of "swap" SwapSettings.record.read fun settings swap => { settings with swap }]

def tomlChars (settings : FeedbackSettings) : List Char :=
  Toml.sectionsChars
    [settings.progress.tomlSection, settings.toast.tomlSection, settings.swap.tomlSection]

def toToml (settings : FeedbackSettings) : String := String.ofList settings.tomlChars

def ofToml (text : String) : Except SettingsFault FeedbackSettings :=
  match Toml.parse text with
  | none => .error .notToml
  | some members => (record.readMembers members).mapError .misfit

def ofBytes (bytes : List UInt8) : Except SettingsFault FeedbackSettings :=
  match Text.decode bytes with
  | .error _ => .error (.unreadable .notUtf8)
  | .ok chars =>
      match ofToml (String.ofList chars) with
      | .error fault => .error fault
      | .ok settings =>
          match settings.validate with
          | .error setting => .error (.invalid setting)
          | .ok () => .ok settings

def load : File → Except SettingsFault FeedbackSettings
  | .missing => .ok default
  | file =>
      match file.read with
      | .error fault => .error (.unreadable fault)
      | .ok bytes => ofBytes bytes

def loadFrom : Access → Except SettingsFault FeedbackSettings
  | .granted file => load file
  | .refused _ refusal => .error (.unreadable (.refused refusal))

def save (settings : FeedbackSettings) (file : File) : Option File := file.write? (Text.encode settings.tomlChars)

end FeedbackSettings

end PageFeedback
