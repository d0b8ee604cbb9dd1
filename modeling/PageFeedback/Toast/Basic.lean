import PageFeedback.Json.Decoder
import PageFeedback.Json.Printer

set_option autoImplicit false

namespace PageFeedback

structure Duration where
  nanoseconds : Nat
deriving DecidableEq, Repr

def Duration.ofMilliseconds (count : Nat) : Duration := ⟨count * 1000000⟩

def Duration.ofSeconds (count : Nat) : Duration := ⟨count * 1000000000⟩

instance : Add Duration := ⟨fun a b => ⟨a.nanoseconds + b.nanoseconds⟩⟩

inductive ToastKind
  | success
  | info
  | warning
  | error
deriving DecidableEq, Repr

def ToastKind.label : ToastKind → String
  | success => "success"
  | info => "info"
  | warning => "warning"
  | error => "error"

def ToastKind.labelled : List (String × ToastKind) :=
  [ToastKind.success, .info, .warning, .error].map fun kind => (kind.label, kind)

inductive Gravity
  | top
  | bottom
deriving DecidableEq, Repr

def Gravity.label : Gravity → String
  | top => "top"
  | bottom => "bottom"

def Gravity.labelled : List (String × Gravity) :=
  [Gravity.top, .bottom].map fun gravity => (gravity.label, gravity)

inductive Position
  | left
  | center
  | right
deriving DecidableEq, Repr

def Position.label : Position → String
  | left => "left"
  | center => "center"
  | right => "right"

def Position.labelled : List (String × Position) :=
  [Position.left, .center, .right].map fun position => (position.label, position)

structure ToastSettings where
  networkErrorText : String
  background : String
  gravity : Gravity
  position : Position
  close : Bool
  stopOnFocus : Bool
  newWindow : Bool
  durationMs : UInt64
deriving DecidableEq

def ToastSettings.default : ToastSettings where
  networkErrorText := "A network error occurred"
  background := "#f97316"
  gravity := .top
  position := .right
  close := true
  stopOnFocus := true
  newWindow := true
  durationMs := 0

structure Toast where
  text : String
  kind : ToastKind
  -- Milliseconds on screen; 0 keeps the toast until it is dismissed.
  durationMs : UInt64
  gravity : Gravity
  position : Position
  close : Bool
  stopOnFocus : Bool
  newWindow : Bool
  background : String
deriving DecidableEq

namespace Toast

def warning (text : String) (settings : ToastSettings) : Toast where
  text
  kind := .warning
  durationMs := settings.durationMs
  gravity := settings.gravity
  position := settings.position
  close := settings.close
  stopOnFocus := settings.stopOnFocus
  newWindow := settings.newWindow
  background := settings.background

def wholeMilliseconds (duration : Duration) : UInt64 :=
  UInt64.ofNat (min (duration.nanoseconds / 1000000) (2 ^ 64 - 1))

def withDuration (toast : Toast) (duration : Duration) : Toast :=
  { toast with durationMs := wholeMilliseconds duration }

def isPersistent (toast : Toast) : Bool := toast.durationMs == 0

def toJson (toast : Toast) : Json :=
  .object [("text", .string toast.text),
    ("toast_type", .string toast.kind.label),
    ("duration_ms", .number (.integer (.ofUInt64 toast.durationMs))),
    ("gravity", .string toast.gravity.label),
    ("position", .string toast.position.label),
    ("close", .bool toast.close),
    ("stop_on_focus", .bool toast.stopOnFocus),
    ("new_window", .bool toast.newWindow),
    ("background", .string toast.background)]

def record : Json.Record Toast where
  name := "Toast"
  blank := warning "" ToastSettings.default
  fields := [
    .of "text" true Json.string? fun toast text => { toast with text },
    .of "toast_type" true (Json.choice? ToastKind.labelled) fun toast kind => { toast with kind },
    .of "duration_ms" true Json.uint64? fun toast durationMs => { toast with durationMs },
    .of "gravity" true (Json.choice? Gravity.labelled) fun toast gravity => { toast with gravity },
    .of "position" true (Json.choice? Position.labelled) fun toast position => { toast with position },
    .of "close" true Json.bool? fun toast close => { toast with close },
    .of "stop_on_focus" true Json.bool? fun toast stopOnFocus => { toast with stopOnFocus },
    .of "new_window" true Json.bool? fun toast newWindow => { toast with newWindow },
    .of "background" true Json.string? fun toast background => { toast with background }]

end Toast

class ToastSink (T : Type) where
  present : Toast → T → T

instance : ToastSink (List Toast) := ⟨fun toast shown => shown ++ [toast]⟩

end PageFeedback
