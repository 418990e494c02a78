import TicketGrant.Outline
import TicketGrant.Secret

/-!
# Claim tokens

A claim token answers a server's demand for claims: a secret value, and the format that tells the
server how to read it.
-/
namespace TicketGrant

/-- A claim with the name of its format. -/
structure ClaimToken where
  value : Secret
  format : String
deriving DecidableEq

namespace ClaimToken

/-- The format of OpenID Connect ID tokens. -/
def idTokenFormat : String := "http://openid.net/specs/openid-connect-core-1_0.html#IDToken"

/-- The format of verifiable presentations. -/
def presentationFormat : String := "https://www.w3.org/TR/vc-data-model/#json-ld"

/-- A claim that is an ID token. -/
def idToken (value : Secret) : ClaimToken := ⟨value, idTokenFormat⟩

/-- A claim that is a verifiable presentation. -/
def presentation (value : Secret) : ClaimToken := ⟨value, presentationFormat⟩

/-- What is shown of a claim token. -/
def outline (c : ClaimToken) : Outline :=
  .fields "ClaimToken" [("value", c.value.outline), ("format", .text c.format)]

end ClaimToken
end TicketGrant
