import PageFeedback.Http.Status
import PageFeedback.Json.Decoder
import PageFeedback.Json.Printer

set_option autoImplicit false

namespace PageFeedback

structure Method where
  name : String
deriving DecidableEq, Repr

namespace Method

def isTokenChar (c : Char) : Bool := c.isAlphanum || "!#$%&'*+-.^_`|~".toList.contains c

def ofName? (name : String) : Option Method :=
  if name ≠ "" && name.toList.all isTokenChar then some ⟨name⟩ else none

def head : Method := ⟨"HEAD"⟩

end Method

structure HttpError where
  status : StatusCode
  message : Option String
deriving DecidableEq, Repr

namespace HttpError

def publicMessage (error : HttpError) : String := error.message.getD error.status.reason

def describe (error : HttpError) : String := s!"{error.status.code}: {error.publicMessage}"

end HttpError

inductive Failure
  | http (error : HttpError)
  | other (text : String)
deriving DecidableEq, Repr

namespace Failure

def describe : Failure → String
  | http error => error.describe
  | other text => text

def reported : Failure → HttpError
  | http error => error
  | other _ => ⟨StatusCode.internalServerError, none⟩

end Failure

structure ErrorBody where
  error : String
deriving DecidableEq, Repr

namespace ErrorBody

def toJson (body : ErrorBody) : Json := .object [("error", .string body.error)]

def record : Json.Record ErrorBody where
  name := "ErrorResponse"
  blank := ⟨""⟩
  fields := [.of "error" true Json.string? fun _ error => ⟨error⟩]

end ErrorBody

structure ErrorReply where
  status : StatusCode
  body : Option ErrorBody
  shouldLog : Bool
deriving DecidableEq, Repr

namespace ErrorReply

def render (method : Method) (failure : Failure) : ErrorReply where
  status := failure.reported.status
  body := if method = Method.head then none else some ⟨failure.reported.publicMessage⟩
  shouldLog := failure.reported.status.isServerError

def forResponse (committed : Bool) (method : Method) (failure : Failure) : Option ErrorReply :=
  if committed then none else some (render method failure)

def bodyText (reply : ErrorReply) : String :=
  match reply.body with
  | some body => body.toJson.compactText
  | none => ""

end ErrorReply

end PageFeedback
