import TicketGrant.Binding.Signer
import TicketGrant.Grant.Token
import TicketGrant.Http.Transport
import TicketGrant.Json.Fault
import TicketGrant.Url.Basic

/-!
# Failures

How discovery and negotiation end without a result. A failure names its cause, and keeps the status
and the description that came with it.
-/
namespace TicketGrant

open Http

/-- A failure before anything was sent. -/
inductive SetupFailure where
  /-- The HTTP client could not be made. -/
  | clientBuild (cause : String)
  | request (fault : RequestFault)
  /-- The server's URL has no metadata below it. -/
  | serverUri (uri : String)
  /-- The server does not name the grant. -/
  | unsupportedGrant (issuer grant : String)
  | config (fault : ConfigFault)
deriving DecidableEq

/-- What the failure tells. -/
def SetupFailure.message : SetupFailure → String
  | .clientBuild _ => "HTTP client could not be constructed."
  | .request fault => fault.message
  | .serverUri uri =>
    "Authorization server URI \x60" ++ uri ++ "\x60 cannot be used as a base URL."
  | .unsupportedGrant issuer grant =>
    "Authorization server \x60" ++ issuer ++ "\x60 does not enable the " ++ grant ++ " grant."
  | .config fault => fault.message

/-- A description, or what stands for a missing one. -/
def describe (description : Option String) : String :=
  description.getD "no description provided"

/-- A failure of the exchange with the token endpoint that has no meaning to the grant. -/
inductive ExchangeFailure where
  /-- An error code of another kind. -/
  | server (code : String) (description : Option String) (status : Option Status)
  /-- A status that is neither success nor a client's error. -/
  | unexpectedStatus (status : Status) (description : Option String)
  /-- A token answer that cannot be read. -/
  | unreadableToken (fault : Json.Fault) (status : Option Status)
  /-- A token answer that is no token; the reason is a sentence of its own. -/
  | invalidToken (fault : TokenFault) (status : Option Status)
  | transport (failure : TransportFailure) (status : Option Status) (retryAfter : Option Duration)
deriving DecidableEq

namespace ExchangeFailure

/-- What the failure tells. -/
def message : ExchangeFailure → String
  | .server code description _ =>
    "Token endpoint returned the \x60" ++ code ++ "\x60 error: " ++ describe description ++ "."
  | .unexpectedStatus status _ =>
    "Token endpoint returned unexpected HTTP status " ++ toString status.code ++ "."
  | .unreadableToken _ _ => "Token endpoint returned a malformed token response."
  | .invalidToken fault _ =>
    "Token endpoint returned an invalid token response: " ++ fault.message ++ "."
  | .transport _ _ _ => "Transport failed while calling the token endpoint."

/-- The status that was seen. -/
def status : ExchangeFailure → Option Status
  | .server _ _ status => status
  | .unexpectedStatus status _ => some status
  | .unreadableToken _ status => status
  | .invalidToken _ status => status
  | .transport _ status _ => status

/-- The description that came along. -/
def description : ExchangeFailure → Option String
  | .server _ description _ => description
  | .unexpectedStatus _ description => description
  | _ => none

/-- Whether time ran out. -/
def isTimeout : ExchangeFailure → Bool
  | .transport failure _ _ => failure.isTimeout
  | _ => false

end ExchangeFailure

/-- What makes a metadata document useless. -/
inductive MetadataFault where
  /-- It cannot be read. -/
  | unreadable (fault : Json.Fault)
  /-- An endpoint, named by its field, is not reached by HTTPS. -/
  | insecure (field : String) (endpoint : Url)
deriving DecidableEq

namespace MetadataFault

/-- What the fault tells. -/
def message : MetadataFault → String
  | .unreadable _ => "document is not UMA server metadata"
  | .insecure field endpoint =>
    field ++ " \x60" ++ endpoint.render ++ "\x60 is not served over HTTPS"

/-- The fault of the document, if it was not read. -/
def source? : MetadataFault → Option Json.Fault
  | .unreadable fault => some fault
  | .insecure _ _ => none

end MetadataFault

/-- How discovery or negotiation fails. -/
inductive Failure where
  | setup (failure : SetupFailure)
  | signing (fault : Binding.SigningFault)
  | exchange (failure : ExchangeFailure)
  /-- The ticket is expired, used or unknown. -/
  | invalidGrant (status : Option Status) (description : Option String)
  /-- The scopes cannot be granted. -/
  | invalidScope (status : Option Status) (description : Option String)
  /-- The server denied the request, or a demand for claims was not met. -/
  | denied (status : Option Status) (description : Option String)
  /-- The budget was spent and the server demanded more claims. -/
  | exhausted (maxDepth : Nat) (status : Option Status) (description : Option String)
  /-- The metadata did not come. -/
  | metadataUnavailable (uri : Url) (status : Option Status) (source : Option TransportFailure)
  /-- The metadata came and cannot be used. -/
  | metadataMalformed (uri : Url) (status : Option Status) (fault : MetadataFault)
deriving DecidableEq

namespace Failure

/-- What the failure tells. -/
def message : Failure → String
  | .setup failure => failure.message
  | .signing fault => fault.message
  | .exchange failure => failure.message
  | .invalidGrant _ description =>
    "Authorization server rejected the ticket: " ++ describe description ++ "."
  | .invalidScope _ description =>
    "Authorization server refused the requested scopes: " ++ describe description ++ "."
  | .denied _ description => "Token request was denied: " ++ describe description ++ "."
  | .exhausted maxDepth _ _ =>
    "Negotiation exceeded the limit of " ++ toString maxDepth ++ " need_info rounds."
  | .metadataUnavailable uri _ _ =>
    "Authorization server metadata at " ++ uri.render ++ " is unavailable."
  | .metadataMalformed uri _ fault =>
    "Authorization server metadata at " ++ uri.render ++ " is malformed: " ++ fault.message ++ "."

/-- The status that was seen. -/
def status : Failure → Option Status
  | .setup _ => none
  | .signing _ => none
  | .exchange failure => failure.status
  | .invalidGrant status _ => status
  | .invalidScope status _ => status
  | .denied status _ => status
  | .exhausted _ status _ => status
  | .metadataUnavailable _ status _ => status
  | .metadataMalformed _ status _ => status

/-- The description that came along. -/
def description : Failure → Option String
  | .exchange failure => failure.description
  | .invalidGrant _ description => description
  | .invalidScope _ description => description
  | .denied _ description => description
  | .exhausted _ _ description => description
  | _ => none

end Failure
end TicketGrant
