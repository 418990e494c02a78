import TicketGrant.Http.Header
import TicketGrant.Http.Status
import TicketGrant.Http.Target

/-!
# Requests and responses
-/
namespace TicketGrant.Http

/-- What a request asks for. -/
inductive Method where
  | get
  | post
deriving DecidableEq

/-- A method as it is written. -/
def Method.name : Method → String
  | .get => "GET"
  | .post => "POST"

/-- A request. -/
structure Request where
  method : Method
  target : Target
  headers : List Header
  body : Bytes
deriving DecidableEq

/-- Whether the value of a field may be sent. -/
def Header.isLegal (field : Header) : Bool := field.value.all inValue

/-- A request as it is built: no field may have a value that cannot be sent. -/
def Request.checked (request : Request) : Except RequestFault Request :=
  if request.headers.all Header.isLegal then .ok request else .error .headerValue

/-- The answer to a request. -/
structure Response where
  status : Status
  headers : List Header
  body : Bytes
deriving DecidableEq

end TicketGrant.Http
