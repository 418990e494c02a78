import TicketGrant.Binding.Jwk
import TicketGrant.Config
import TicketGrant.Crypto.Ecdsa
import TicketGrant.Text.Ordered

/-!
# Signers

A signer holds the key that a client's requests are bound to. A signer without a key signs nothing.
Whether requests are bound at all depends on whether server and client share an algorithm.
-/
namespace TicketGrant.Binding

/-- Why there is no proof. -/
inductive SigningFault where
  /-- Proofs are not made in this algorithm. -/
  | unsupported (algorithm : String)
  /-- The signer holds no key. -/
  | noKey
  /-- The key makes no signature of this message. -/
  | noSignature
  /-- The bytes are no private key. -/
  | invalidKey
deriving DecidableEq

/-- What the fault tells. -/
def SigningFault.message : SigningFault → String
  | .unsupported algorithm => "DPoP algorithm \x60" ++ algorithm ++ "\x60 is not supported."
  | .noKey => "DPoP proof could not be signed: no ES256 key material is loaded."
  | .noSignature => "DPoP proof could not be signed: signature error."
  | .invalidKey => "DPoP key material is invalid: signature error."

/-- The first of the preferred algorithms that the server supports too; none if the server does not
tell what it supports. -/
def select? (server : Option Text.Ordered) (preferred : List String) : Option String := do
  let supported ← server
  preferred.find? supported.contains

/-- The holder of a key. -/
structure Signer where
  key : Option P256.PrivateKey := none

namespace Signer

/-- The signer with the key in some bytes. -/
def ofBytes (bytes : Bytes) : Except SigningFault Signer :=
  match P256.PrivateKey.ofBytes? bytes with
  | some key => .ok ⟨some key⟩
  | none => .error .invalidKey

/-- The signer with the first of some drawn sequences of bytes that is a key. -/
def ofDraws (draws : List Bytes) : Signer := ⟨draws.findSome? P256.PrivateKey.ofBytes?⟩

/-- The algorithms in which the signer makes proofs. -/
def algorithms (s : Signer) : List String := if s.key.isSome then [es256] else []

/-- The public key. -/
def publicJwk? (s : Signer) : Option PublicJwk := do
  let (x, y) ← (← s.key).publicPoint?
  some (.ofPoint x y)

/-- The digest by which the public key is known. -/
def thumbprint (s : Signer) : Except SigningFault String :=
  match s.publicJwk? with
  | some jwk => .ok jwk.thumbprint
  | none => .error .noKey

/-- What is shown of a signer. -/
def outline (s : Signer) : Outline :=
  .fields "DpopSigner" [("algorithms", .list (s.algorithms.map .text))]

end Signer

/-- A signer with the algorithm to sign in. -/
structure Choice where
  signer : Signer
  algorithm : String

end TicketGrant.Binding
