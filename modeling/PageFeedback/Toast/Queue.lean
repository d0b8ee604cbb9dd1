import PageFeedback.Toast.Basic

set_option autoImplicit false

namespace PageFeedback

structure ToastId where
  number : Nat
deriving DecidableEq, Repr

def ToastId.text (id : ToastId) : String := s!"#{id.number}"

structure ActiveToast where
  id : ToastId
  toast : Toast
  remaining : Option Duration
  focused : Bool
deriving DecidableEq

namespace ActiveToast

def isPaused (active : ActiveToast) : Bool := active.focused && active.toast.stopOnFocus

def after (active : ActiveToast) (elapsed : Duration) : Option ActiveToast :=
  if active.isPaused then some active
  else match active.remaining with
    | none => some active
    | some left =>
        if left.nanoseconds ≤ elapsed.nanoseconds then none
        else some { active with remaining := some ⟨left.nanoseconds - elapsed.nanoseconds⟩ }

end ActiveToast

structure ToastQueue where
  lastId : Nat
  active : List ActiveToast
deriving DecidableEq

namespace ToastQueue

def empty : ToastQueue := ⟨0, []⟩

def push (queue : ToastQueue) (toast : Toast) : ToastQueue × ToastId :=
  let id : ToastId := ⟨queue.lastId + 1⟩
  let remaining :=
    if toast.isPersistent then none else some (Duration.ofMilliseconds toast.durationMs.toNat)
  (⟨queue.lastId + 1, queue.active ++ [⟨id, toast, remaining, false⟩]⟩, id)

def dismiss (queue : ToastQueue) (id : ToastId) : ToastQueue × Option Toast :=
  match queue.active.find? fun active => active.id == id with
  | some found =>
      ({ queue with active := queue.active.eraseP fun active => active.id == id }, some found.toast)
  | none => (queue, none)

def dismissAll (queue : ToastQueue) : ToastQueue × Nat :=
  ({ queue with active := [] }, queue.active.length)

def setFocus (queue : ToastQueue) (id : ToastId) (focused : Bool) : ToastQueue :=
  { queue with active := queue.active.map fun active =>
      if active.id = id then { active with focused } else active }

def focus (queue : ToastQueue) (id : ToastId) : ToastQueue := queue.setFocus id true

def blur (queue : ToastQueue) (id : ToastId) : ToastQueue := queue.setFocus id false

def advance (queue : ToastQueue) (elapsed : Duration) : ToastQueue × List Toast :=
  ({ queue with active := queue.active.filterMap (·.after elapsed) },
    (queue.active.filter fun active => (active.after elapsed).isNone).map (·.toast))

def size (queue : ToastQueue) : Nat := queue.active.length

def toasts (queue : ToastQueue) : List Toast := queue.active.map (·.toast)

instance : ToastSink ToastQueue := ⟨fun toast queue => (queue.push toast).1⟩

end ToastQueue

inductive QueueAction
  | push (toast : Toast)
  | dismiss (id : ToastId)
  | dismissAll
  | focus (id : ToastId)
  | blur (id : ToastId)
  | advance (elapsed : Duration)
deriving DecidableEq

inductive QueueOutcome
  | shown (id : ToastId)
  | dismissed (toast : Option Toast)
  | dismissedAll (count : Nat)
  | expired (toasts : List Toast)
  | nothing
deriving DecidableEq

namespace ToastQueue

def act (queue : ToastQueue) (action : QueueAction) : ToastQueue × QueueOutcome :=
  match action with
  | .push toast =>
      let (after, id) := queue.push toast
      (after, .shown id)
  | .dismiss id =>
      let (after, toast) := queue.dismiss id
      (after, .dismissed toast)
  | .dismissAll =>
      let (after, count) := queue.dismissAll
      (after, .dismissedAll count)
  | .focus id => (queue.focus id, .nothing)
  | .blur id => (queue.blur id, .nothing)
  | .advance elapsed =>
      let (after, toasts) := queue.advance elapsed
      (after, .expired toasts)

def run (queue : ToastQueue) (actions : List QueueAction) : ToastQueue :=
  actions.foldl (fun queue action => (queue.act action).1) queue

end ToastQueue

end PageFeedback
