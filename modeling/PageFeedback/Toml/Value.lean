import PageFeedback.Binary64.Basic

set_option autoImplicit false

namespace PageFeedback

inductive Toml
  | string (text : String)
  | integer (value : Int)
  -- A number that is marked as whole, but not written in the digits of its base.
  | illegibleInteger
  | float (value : Binary64)
  | hugeFloat
  | boolean (value : Bool)
  | datetime
  | array (items : List Toml)
  | table (members : List (String × Toml))

end PageFeedback
