set_option autoImplicit false

namespace PageFeedback.Text

def after? : (start text : List Char) → Option (List Char)
  | [], text => some text
  | _ :: _, [] => none
  | c :: start, d :: text => if c = d then after? start text else none

theorem after_append (start text : List Char) : after? start (start ++ text) = some text := by
  induction start with
  | nil => rfl
  | cons c start ih => simpa [after?] using ih

theorem eq_append_of_after (start text rest : List Char) (found : after? start text = some rest) :
    text = start ++ rest := by
  induction start generalizing text with
  | nil => exact Option.some.inj found
  | cons c start ih =>
      cases text with
      | nil => exact nomatch found
      | cons d text =>
          unfold after? at found
          split at found
          next same => rw [same, ih text found, List.cons_append]
          next => exact nomatch found

end PageFeedback.Text
