import TicketGrant.Crypto.P256
import TicketGrant.Encoding.Base64
import TicketGrant.Json.Decoder
import TicketGrant.Json.Value

/-!
# Public keys as JSON

The members stand in the order of their names, so the document of a key is also what its thumbprint
is the digest of.
-/
namespace TicketGrant.Binding

/-- A public key. -/
structure PublicJwk where
  /-- The curve. -/
  crv : String
  /-- The type of key. -/
  kty : String
  /-- The first coordinate. -/
  x : String
  /-- The second coordinate. -/
  y : String
deriving DecidableEq

namespace PublicJwk

/-- The fields of a public key. -/
def record : Json.Record PublicJwk :=
  PublicJwk.mk <$> .required "crv" .text <*> .required "kty" .text <*> .required "x" .text
    <*> .required "y" .text

/-- A public key in a JSON document. -/
def decode : Json.Decoder PublicJwk := record.decode

/-- A public key as JSON. -/
def toJson (k : PublicJwk) : Json.Value :=
  .record [("crv", .text k.crv), ("kty", .text k.kty), ("x", .text k.x), ("y", .text k.y)]

/-- The key at a point of the curve. -/
def ofPoint (x y : Nat) : PublicJwk :=
  ⟨"P-256", "EC", Base64.urlSafe.encode (P256.toBytes x), Base64.urlSafe.encode (P256.toBytes y)⟩

/-- A coordinate, which is 32 bytes. -/
def coordinate? (text : String) : Option Nat := do
  let bytes ← Base64.urlSafe.decode? text
  if bytes.length = 32 then some (P256.ofBytes bytes) else none

/-- The point of a key. -/
def point? (k : PublicJwk) : Option (Nat × Nat) := do
  some (← coordinate? k.x, ← coordinate? k.y)

/-- The digest by which a key is known. -/
def thumbprint (k : PublicJwk) : String :=
  Base64.urlSafe.encode (Sha256.digest (Utf8.encode k.toJson.render))

end PublicJwk
end TicketGrant.Binding
