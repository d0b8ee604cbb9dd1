import PageFeedback.Text.Blank
import PageFeedback.Text.Leading

set_option autoImplicit false

namespace PageFeedback

inductive LifecycleEvent
  | beforeSend
  | afterRequest
  | sendError
  | beforeSwap
deriving DecidableEq, Repr

structure UnknownEvent where
  name : String
deriving DecidableEq, Repr

def UnknownEvent.message (unknown : UnknownEvent) : String :=
  s!"unknown lifecycle event: {unknown.name}"

namespace LifecycleEvent

def all : List LifecycleEvent := [beforeSend, afterRequest, sendError, beforeSwap]

def shortName : LifecycleEvent → String
  | beforeSend => "beforeSend"
  | afterRequest => "afterRequest"
  | sendError => "sendError"
  | beforeSwap => "beforeSwap"

def domName : LifecycleEvent → String
  | beforeSend => "htmx:beforeSend"
  | afterRequest => "htmx:afterRequest"
  | sendError => "htmx:sendError"
  | beforeSwap => "htmx:beforeSwap"

def withoutMarker (name : List Char) : List Char :=
  (Text.after? "htmx:".toList name).getD name

def ofName (name : String) : Except UnknownEvent LifecycleEvent :=
  let trimmed := Text.trim name.toList
  match all.find? fun event => event.shortName.toList == withoutMarker trimmed with
  | some event => .ok event
  | none => .error ⟨String.ofList trimmed⟩

end LifecycleEvent

end PageFeedback
