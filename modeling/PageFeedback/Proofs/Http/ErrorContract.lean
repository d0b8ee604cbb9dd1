import PageFeedback.Http.ErrorReply
import PageFeedback.Proofs.Coordinator
import PageFeedback.Proofs.Json.Value

set_option autoImplicit false

namespace PageFeedback

theorem StatusCode.phrases_not_empty : ∀ entry ∈ StatusCode.phrases, entry.2 ≠ "" := by
  decide

theorem StatusCode.reason_not_empty (status : StatusCode) : status.reason ≠ "" := by
  unfold StatusCode.reason
  cases found : StatusCode.phrases.lookup status.code with
  | none => decide
  | some phrase =>
      obtain ⟨before, after, split, _⟩ := List.lookup_eq_some_iff.mp found
      exact StatusCode.phrases_not_empty (status.code, phrase) (by simp [split])

theorem HttpError.public_message_eq_empty (error : HttpError) :
    error.publicMessage = "" ↔ error.message = some "" := by
  unfold HttpError.publicMessage
  cases error.message with
  | none => simpa using error.status.reason_not_empty
  | some message => simp

def ErrorReply.transaction (reply : ErrorReply) (headers : Headers) : Transaction :=
  ⟨UInt16.ofNat reply.status.code, reply.bodyText, headers⟩

theorem ErrorReply.body_text_of_head (failure : Failure) :
    (ErrorReply.render Method.head failure).bodyText = "" := rfl

theorem ErrorReply.body_text_of_other (method : Method) (failure : Failure) (other : method ≠ Method.head) :
    (ErrorReply.render method failure).bodyText =
      (ErrorBody.toJson ⟨failure.reported.publicMessage⟩).compactText := by
  simp only [ErrorReply.bodyText, ErrorReply.render, if_neg other]

namespace Coordinator

theorem suppression_of_body (message : String) :
    suppressionOf (ErrorBody.toJson ⟨message⟩).compactText =
      if message = "" then .silent else .message message := by
  rw [suppressionOf, ErrorBody.toJson, Json.parse_single_string]
  have found : (Json.object [("error", .string message)]).member? "error" = some (.string message) := rfl
  simp only [found]
  by_cases empty : message = "" <;> simp [errorMessage, empty]

theorem suppression_of_nothing :
    suppressionOf "" = .malformedBody "EOF while parsing a value at line 1 column 0" := by
  decide

section

variable {P T : Type} [ProgressIndicator P] [ToastSink T]

-- Before the swap of a response, these toasts are shown, the response is to replace
-- page content or not, and the reaction is this one; nothing else changes.
def Answers (coordinator : Coordinator P T) (transaction : Transaction) (toasts : List Toast)
    (shouldSwap : Bool) (reaction : Reaction) : Prop :=
  coordinator.handle .beforeSwap (EventDetail.ofTransaction transaction) =
    ({ coordinator with toasts := presentAll coordinator.toasts toasts }, ⟨transaction, shouldSwap⟩, reaction)

theorem answers_allowed (coordinator : Coordinator P T) (transaction : Transaction)
    (allowed : coordinator.settings.swap.policy.suppresses transaction.status = false) :
    coordinator.Answers transaction [] true .swapAllowed :=
  coordinator.before_swap_allowed (EventDetail.ofTransaction transaction) allowed

theorem answers_suppressed (coordinator : Coordinator P T) (transaction : Transaction)
    (suppressed : coordinator.settings.swap.policy.suppresses transaction.status = true) :
    let reaction : Reaction := .swapSuppressed (suppressionOf transaction.responseText)
    coordinator.Answers transaction (reaction.toast? coordinator.settings.toast).toList false reaction :=
  coordinator.before_swap_suppressed (EventDetail.ofTransaction transaction) suppressed

end

end Coordinator

theorem error_contract {P T : Type} [ProgressIndicator P] [ToastSink T] (fresh : Coordinator P T)
    (method : Method) (error : HttpError) (headers : Headers) :
    let transaction := (ErrorReply.render method (.http error)).transaction headers
    let message := error.publicMessage
    let suppressed := fresh.settings.swap.policy.suppresses transaction.status
    transaction.status.toNat = error.status.code ∧
    (suppressed = false → fresh.Answers transaction [] true .swapAllowed) ∧
    (suppressed = true → method ≠ Method.head → message ≠ "" →
      let toast := Toast.warning message fresh.settings.toast
      toast.text = message ∧ fresh.Answers transaction [toast] false (.swapSuppressed (.message message))) ∧
    (suppressed = true → method ≠ Method.head → error.message = some "" →
      fresh.Answers transaction [] false (.swapSuppressed .silent)) ∧
    (suppressed = true → method = Method.head →
      fresh.Answers transaction [] false
        (.swapSuppressed (.malformedBody "EOF while parsing a value at line 1 column 0"))) ∧
    (message = "" ↔ error.message = some "") ∧
    ∀ text other : String,
      ErrorReply.render method (.other text) = ErrorReply.render method (.other other) ∧
      ErrorReply.render method (.other text) =
        ErrorReply.render method (.http ⟨StatusCode.internalServerError, none⟩) := by
  intro transaction message suppressed
  have code : transaction.status.toNat = error.status.code := by
    have most := error.status.most
    exact UInt16.toNat_ofNat_of_lt' (by change error.status.code < 65536; omega)
  have body (other : method ≠ Method.head) :
      Coordinator.suppressionOf transaction.responseText =
        if message = "" then .silent else .message message := by
    rw [← Coordinator.suppression_of_body message]
    exact congrArg Coordinator.suppressionOf (ErrorReply.body_text_of_other method (.http error) other)
  refine ⟨code, fresh.answers_allowed transaction, ?_, ?_, ?_, error.public_message_eq_empty,
    fun text other => ⟨rfl, rfl⟩⟩
  · intro refused other shown
    have answer := fresh.answers_suppressed transaction refused
    rw [body other, if_neg shown] at answer
    exact ⟨rfl, answer⟩
  · intro refused other blank
    have answer := fresh.answers_suppressed transaction refused
    rw [body other, if_pos (error.public_message_eq_empty.mpr blank)] at answer
    exact answer
  · intro refused head
    have answer := fresh.answers_suppressed transaction refused
    -- There is no body, and no text is not JSON.
    have nothing : transaction.responseText = "" := by
      change (ErrorReply.render method (.http error)).bodyText = ""
      rw [head, ErrorReply.body_text_of_head]
    rw [nothing, Coordinator.suppression_of_nothing] at answer
    exact answer

-- A quote, a backslash and a control character are escaped on the way and shown as they were.
theorem error_with_quote_and_control :
    let message := "say \"no\" \\ \x07"
    let error : HttpError := ⟨⟨404, by decide, by decide⟩, some message⟩
    let fresh := Coordinator.ofSettings .default
    let transaction := (ErrorReply.render ⟨"GET"⟩ (.http error)).transaction .empty
    let toast := Toast.warning message fresh.settings.toast
    transaction.responseText = "\x7b\"error\":\"say \\\"no\\\" \\\\ \\u0007\"\x7d" ∧
      fresh.settings.swap.policy.suppresses transaction.status = true ∧ (⟨"GET"⟩ : Method) ≠ Method.head ∧
      message ≠ "" ∧ toast.text = message ∧
      fresh.Answers transaction [toast] false (.swapSuppressed (.message message)) := by
  intro message error fresh transaction toast
  have refused : fresh.settings.swap.policy.suppresses transaction.status = true := rfl
  have other : (⟨"GET"⟩ : Method) ≠ Method.head := by decide
  have shown : message ≠ "" := by decide
  obtain ⟨-, -, verbatim, -⟩ := error_contract fresh ⟨"GET"⟩ error .empty
  exact ⟨by decide +kernel, refused, other, shown, verbatim refused other shown⟩

end PageFeedback
