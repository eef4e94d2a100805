/-
# Requests and responses

The parts of a request that the API looks at and the parts of a response that
it fills in.
-/

import Quiesce.Http.MediaType
import Quiesce.Json.Basic

namespace Quiesce.Http

/-- A request. The target is the path as it was sent, perhaps with a query. -/
structure Request where
  method : String
  target : String
  contentType : Option String
  body : List UInt8

/-- Whether a request says that its body is JSON. -/
def Request.saysJson (request : Request) : Bool :=
  match request.contentType.bind MediaType.ofHeader? with
  | some mediaType => mediaType.isJson
  | none => false

/-- A request says so with the plain media type. -/
theorem Request.saysJson_of_plain {request : Request}
    (plain : request.contentType = some "application/json") : request.saysJson := by
  have json : MediaType.ofHeader? "application/json" = some ⟨"application", "json", none⟩ := by
    decide
  simp only [saysJson, plain, Option.bind_some, json]
  decide

/-- A response. -/
structure Response where
  status : Nat
  contentType : Option String
  content : String
  /-- The methods that the route of the request allows. -/
  allow : Option String
  deriving DecidableEq, Repr

namespace Response

/-- A response without content. -/
def bare (status : Nat) : Response :=
  ⟨status, none, "", none⟩

/-- A response with plain text. -/
def plain (status : Nat) (content : String) : Response :=
  ⟨status, some "text/plain; charset=utf-8", content, none⟩

/-- A response with a JSON value. -/
def json (status : Nat) (content : Json) : Response :=
  ⟨status, some "application/json", content.render, none⟩

/-- The same response to a request that asks for no content. -/
def withoutContent (response : Response) : Response :=
  { response with content := "" }

end Response

end Quiesce.Http
