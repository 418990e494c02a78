import TicketGrant.Crypto.Hmac
import TicketGrant.Crypto.P256

/-!
# Signatures (ECDSA with P-256 and SHA-256)

A signature is a pair of numbers below the curve's order. The secret factor that each signature
needs is derived from key and message by keyed digests, so signing is a function.
-/
namespace TicketGrant.Ecdsa

open P256

/-- A signature. -/
structure Signature where
  r : Nat
  s : Nat
deriving DecidableEq

/-- A signature as 64 bytes. -/
def Signature.toBytes (sig : Signature) : Bytes := P256.toBytes sig.r ++ P256.toBytes sig.s

/-- The signature in 64 bytes. -/
def Signature.ofBytes? (bytes : Bytes) : Option Signature :=
  if bytes.length = 64 then some ⟨ofBytes (bytes.take 32), ofBytes (bytes.drop 32)⟩ else none

/-- The generator of secret factors: a chain value and the key of its digests. -/
structure Generator where
  key : Bytes
  value : Bytes

namespace Generator

/-- Mixes a seed into the generator. -/
def mix (g : Generator) (mark : UInt8) (seed : Bytes) : Generator :=
  let key := Hmac.digest g.key (g.value ++ mark :: seed)
  ⟨key, Hmac.digest key g.value⟩

/-- The generator for a seed. -/
def ofSeed (seed : Bytes) : Generator :=
  let g : Generator := ⟨List.replicate 32 0, List.replicate 32 1⟩
  (g.mix 0 seed).mix 1 seed

/-- The first candidate in range among the next `attempts`. -/
def next? (g : Generator) : Nat → Option Nat
  | 0 => none
  | attempts + 1 =>
    let value := Hmac.digest g.key g.value
    let candidate := ofBytes value
    if 0 < candidate ∧ candidate < order then some candidate
    else (Generator.mix ⟨g.key, value⟩ 0 []).next? attempts

end Generator

/-- The number of a message's digest. -/
def messageNumber (message : Bytes) : Nat := ofBytes (Sha256.digest message) % order

/-- The secret factor for a key and a message. The search for it need not end; here it is given up
after sixty-four candidates. One candidate is out of range with a chance of `2 ^ -32`. -/
def secretFactor? (key : PrivateKey) (message : Bytes) : Option Nat :=
  (Generator.ofSeed (toBytes key.scalar ++ toBytes (messageNumber message))).next? 64

/-- The signature of a message. -/
def sign? (key : PrivateKey) (message : Bytes) : Option Signature := do
  let k ← secretFactor? key message
  let (x, _) ← (Point.multiply k .generator).affine?
  let r := x % order
  let s := inverse k order * (messageNumber message + r * key.scalar) % order
  if r = 0 ∨ s = 0 then none else some ⟨r, s⟩

/-- Whether a signature of a message fits the public point `(x, y)`. -/
def verify (x y : Nat) (message : Bytes) (sig : Signature) : Bool :=
  isOnCurve x y && 0 < sig.r && sig.r < order && 0 < sig.s && sig.s < order &&
    let w := inverse sig.s order
    let p := Point.multiply (messageNumber message * w % order) .generator
    let q := Point.multiply (sig.r * w % order) ⟨x, y, 1⟩
    match (p.add q).affine? with
    | none => false
    | some (v, _) => v % order == sig.r

end TicketGrant.Ecdsa
