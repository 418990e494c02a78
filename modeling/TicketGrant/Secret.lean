import TicketGrant.Crypto.Sha256
import TicketGrant.Encoding.Base64
import TicketGrant.Json.Decoder
import TicketGrant.Json.Value
import TicketGrant.Outline

/-!
# Secrets

Tokens, claim values and verifiers are texts that never show in described output.
-/
namespace TicketGrant

/-- A text that is not to be shown. -/
structure Secret where
  /-- The text itself. -/
  expose : String
deriving DecidableEq, Inhabited

namespace Secret

/-- What is shown instead. -/
def display (_ : Secret) : String := "<redacted>"

/-- The URL-safe digest of the secret: the hash by which a proof names an access token, and the
challenge for a code verifier. -/
def sha256 (s : Secret) : String := Base64.urlSafe.encode (Sha256.digest (Utf8.encode s.expose))

/-- What is shown where values are described. -/
def outline (_ : Secret) : Outline := .atom "TokenSecret(<redacted>)"

/-- A secret in a JSON document is a text. -/
def decode : Json.Decoder Secret := fun node => (Json.Decoder.text node).map Secret.mk

/-- A secret as JSON. -/
def toJson (s : Secret) : Json.Value := .text s.expose

end Secret
end TicketGrant
