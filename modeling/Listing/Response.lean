/-
  Listing/Response.lean
  =====================
  **Answers to the client.**

  A response is a status, a media type and a JSON body.  The response to an error
  holds the client's message and, for a request that is not valid, every
  violation.
-/
import Listing.Error
import Listing.Json.Writer

namespace Listing

/-! ### Status -/

inductive Status where
  | ok
  | unprocessable
  | serverError
  | badGateway
deriving DecidableEq, Repr

namespace Status

def code : Status → Nat
  | .ok => 200
  | .unprocessable => 422
  | .serverError => 500
  | .badGateway => 502

def phrase : Status → String
  | .ok => "OK"
  | .unprocessable => "Unprocessable Entity"
  | .serverError => "Internal Server Error"
  | .badGateway => "Bad Gateway"

def line (status : Status) : String :=
  let code := status.code
  s!"{code} " ++ status.phrase

end Status

/-! ### Responses -/

structure Response where
  status : Status
  contentType : String
  body : Json

def Response.bodyText (response : Response) : String := response.body.render

namespace Error

/-- The status that an error is answered with: only a request that is not valid is
    the client's fault. -/
def status : Error → Status
  | .validation _ => .unprocessable
  | .backend _ => .badGateway
  | _ => .serverError

def violationJson (violation : Violation) : Json :=
  .object [("field", .string violation.field), ("message", .string violation.message)]

def body : Error → Json
  | .validation violations =>
    .object [("error", .string "Validation failed"),
      ("details", .array (violations.map violationJson))]
  | error => .object [("error", .string error.userMessage)]

def response (error : Error) : Response := ⟨error.status, "application/json", error.body⟩

end Error

end Listing
