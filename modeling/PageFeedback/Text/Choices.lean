set_option autoImplicit false

namespace PageFeedback.Text

def choices (names : List String) : String :=
  match names.map fun (name : String) => s!"`{name}`" with
  | [only] => only
  | [first, second] => s!"{first} or {second}"
  | several => "one of " ++ ", ".intercalate several

def unknownChoice (name : String) (names : List String) : String :=
  s!"unknown variant `{name}`, expected {choices names}"

end PageFeedback.Text
