import TicketGrant.Http.Message
import TicketGrant.Http.Slot

/-!
# Transports

A transport answers a request with a response or a fault, and meanwhile uses the slot that came
with the request. What a caller is told of a fault is the transport failure that it is mapped to.
-/
namespace TicketGrant.Http

/-- Why a transport has no response. -/
inductive Fault where
  /-- The connection broke, or the time for it ran out. -/
  | connection (timedOut : Bool) (cause : String)
  /-- The request could not be handed over. -/
  | request (fault : RequestFault)
  | io (cause : String)
  | other (message : String)
deriving DecidableEq

/-- What a caller is told of a fault. -/
inductive TransportFailure where
  | network (cause : String)
  | timeout (cause : String)
  | request (fault : RequestFault)
  | io (cause : String)
  | other (message : String)
deriving DecidableEq

namespace TransportFailure

/-- The failure that a fault is told as. -/
def ofFault : Fault → TransportFailure
  | .connection true cause => .timeout cause
  | .connection false cause => .network cause
  | .request fault => .request fault
  | .io cause => .io cause
  | .other message => .other message

/-- What the failure tells. -/
def message : TransportFailure → String
  | .network _ => "Network error occurred while calling the authorization server."
  | .timeout _ => "Request to the authorization server timed out."
  | .request fault => fault.message
  | .io _ => "I/O error occurred while calling the authorization server."
  | .other message =>
    "HTTP client error occurred while calling the authorization server: " ++ message ++ "."

/-- The text of what lies behind the failure, where that is an error of its own. -/
def cause? : TransportFailure → Option String
  | .network cause => some cause
  | .timeout cause => some cause
  | .io cause => some cause
  | .request _ => none
  | .other _ => none

/-- Whether time ran out. -/
def isTimeout : TransportFailure → Bool
  | .timeout _ => true
  | _ => false

end TransportFailure

/-- What a transport does with a request: how it uses the slot, and how that ends. -/
structure Delivery where
  actions : List Slot.Action
  outcome : Except Fault Response

end TicketGrant.Http
