import TicketGrant.Json.Decoder
import TicketGrant.Json.Value
import TicketGrant.Text.Ordered
import TicketGrant.Url.Parser

/-!
# Server metadata

An authorization server describes itself in a document below its own URL: who it is, where tokens
are issued, and which grants, signing algorithms and claim profiles it supports.
-/
namespace TicketGrant

open Text

/-- The identifier of the grant that exchanges permission tickets. -/
def ticketGrant : String := "urn:ietf:params:oauth:grant-type:uma-ticket"

/-- A URL in a JSON document. -/
def Url.decode : Json.Decoder Url := Json.Decoder.text.filterMap Url.parse?

/-- A URL as JSON. -/
def Url.toJson (u : Url) : Json.Value := .text u.render

/-- A set of texts in a JSON document is a list. -/
def Text.Ordered.decode : Json.Decoder Ordered := fun node =>
  (Json.Decoder.list .text node).map Ordered.ofList

/-- A set of texts as JSON, in its order. -/
def Text.Ordered.toJson (s : Ordered) : Json.Value := .texts s.toList

/-- What an authorization server tells about itself. -/
structure Metadata where
  issuer : Url
  tokenEndpoint : Url
  /-- Where the server's own keys are. -/
  jwksUri : Option Url
  /-- The grants that the server supports; none are named if the server does not tell. -/
  grantTypes : Ordered
  /-- The algorithms in which it accepts proofs. -/
  proofAlgorithms : Ordered
  profiles : Ordered
deriving DecidableEq

namespace Metadata

/-- The fields of a metadata document. -/
def record : Json.Record Metadata :=
  Metadata.mk <$> .required "issuer" Url.decode
    <*> .required "token_endpoint" Url.decode
    <*> .defaulted "jwks_uri" Url.decode.nullable none
    <*> .defaulted "grant_types_supported" Ordered.decode .empty
    <*> .defaulted "dpop_signing_alg_values_supported" Ordered.decode .empty
    <*> .defaulted "uma_profiles_supported" Ordered.decode .empty

/-- A metadata document. -/
def decode : Json.Decoder Metadata := record.decode

/-- The metadata as JSON. -/
def toJson (m : Metadata) : Json.Value :=
  .record ([("issuer", m.issuer.toJson), ("token_endpoint", m.tokenEndpoint.toJson)] ++
    (m.jwksUri.toList.map fun uri => ("jwks_uri", uri.toJson)) ++
    [("grant_types_supported", m.grantTypes.toJson),
     ("dpop_signing_alg_values_supported", m.proofAlgorithms.toJson),
     ("uma_profiles_supported", m.profiles.toJson)])

/-- Where a server's metadata is: below the server's own path. A URL without path segments has
nothing below it. -/
def location? (server : Url) : Option Url :=
  (server.appendSegments? [".well-known", "uma2-configuration"]).map Url.withoutQuery

/-- Whether the server names a grant. -/
def supports (m : Metadata) (grant : String) : Bool := m.grantTypes.contains grant

/-- Whether tickets may be exchanged: the server names the grant, or none at all. -/
def allowsTickets (m : Metadata) : Bool := m.grantTypes.isEmpty || m.supports ticketGrant

/-- The algorithms in which the server accepts proofs, if it names any. -/
def algorithms? (m : Metadata) : Option Ordered :=
  if m.proofAlgorithms.isEmpty then none else some m.proofAlgorithms

/-- The first of issuer and token endpoint that is not reached by HTTPS, with its name. -/
def insecure? (m : Metadata) : Option (String × Url) :=
  [("issuer", m.issuer), ("token_endpoint", m.tokenEndpoint)].find? (·.2.scheme != "https")

end Metadata
end TicketGrant
