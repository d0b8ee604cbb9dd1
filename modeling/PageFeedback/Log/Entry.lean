import PageFeedback.Log.Level

set_option autoImplicit false

namespace PageFeedback

inductive LogValue
  | shown (text : String)
  | quoted (text : String)
  | number (value : Nat)
  | truth (value : Bool)
deriving DecidableEq, Repr

structure LogSpan where
  name : String
  level : LogLevel
  target : String
  fields : List (String × String)
deriving DecidableEq, Repr

structure LogEntry where
  level : LogLevel
  target : String
  message : String
  fields : List (String × LogValue)
  within : Option LogSpan
deriving DecidableEq, Repr

end PageFeedback
