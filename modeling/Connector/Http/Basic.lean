import Connector.Json.Basic

/-!
# Requests and responses

* `Http.Request`, `Http.Response` — what is sent and what comes back.
* `Http.Response.toJson` — a response as templates see it.
* `HttpError` — why there is no usable response.
-/

namespace Connector

/-- **Why there is no usable response.** -/
inductive HttpError where
  | status (code : Nat) (body : String)
  | invalidUrl (url why : String)
  | invalidMethod (method : String)
  | invalidProxy
  | transport (why : String)
  deriving DecidableEq

namespace HttpError

/-- The message of an error. -/
def message : HttpError → String
  | .status code body => "http status " ++ toString code ++ ": " ++ body
  | .invalidUrl url why => "invalid url '" ++ url ++ "': " ++ why
  | .invalidMethod method => "invalid http method: " ++ method
  | .invalidProxy => "invalid proxy"
  | .transport why => "transport error: " ++ why

/-- The status that was answered, if there was an answer. -/
def status? : HttpError → Option Nat
  | .status code _ => some code
  | _ => none

/-- Whether the answer was that there is nothing. -/
def isNotFound (e : HttpError) : Bool := e.status? = some 404

end HttpError

/-- **A request**, ready to be sent. -/
structure Http.Request where
  method : String
  url : String
  headers : Record String
  body : Option String

/-- **A response** of a successful request. -/
structure Http.Response where
  status : Nat
  headers : Record String
  body : String

/-- A response as templates see it. -/
def Http.Response.toJson (r : Http.Response) : Json :=
  .obj [("body", .str r.body), ("headers", .obj (Record.mapValues .str r.headers)),
    ("status", .ofNat r.status)]

end Connector
