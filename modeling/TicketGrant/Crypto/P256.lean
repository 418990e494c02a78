import TicketGrant.Crypto.Sha256

/-!
# The curve P-256

Points of the curve `y² = x³ - 3x + b` over the integers modulo a prime, in projective form: the
point of `(x, y, z)` is `(x / z², y / z³)`, and `z = 0` is the point at infinity, the zero of the
group. Only the end of a computation divides.
-/
namespace TicketGrant.P256

/-- The prime modulo which coordinates are computed. -/
def prime : Nat := 0xffffffff00000001000000000000000000000000ffffffffffffffffffffffff

/-- The constant of the curve's equation. -/
def b : Nat := 0x5ac635d8aa3a93e7b3ebbd55769886bc651d06b0cc53b0f63bce3c3e27d2604b

/-- The number of points. -/
def order : Nat := 0xffffffff00000000ffffffffffffffffbce6faada7179e84f3b9cac2fc632551

/-- `x ^ e` modulo `m`, by squaring: the bits of `e` are used from the highest to the lowest. -/
def powMod (x e m : Nat) : Nat :=
  (List.range (e.log2 + 1)).reverse.foldl (fun acc i =>
    let square := acc * acc % m
    if e.testBit i then square * x % m else square) (1 % m)

/-- The inverse of `x` modulo a prime. -/
def inverse (x m : Nat) : Nat := powMod x (m - 2) m

/-- A point in projective form. -/
structure Point where
  x : Nat
  y : Nat
  z : Nat

namespace Point

/-- The zero of the group. -/
def zero : Point := ⟨1, 1, 0⟩

/-- The point of which all others are multiples. -/
def generator : Point :=
  ⟨0x6b17d1f2e12c4247f8bce6e563a440f277037d812deb33a0f4a13945d898c296,
    0x4fe342e2fe1a7f9b8ee7eb4a7c0f9e162bce33576b315ececbb6406837bf51f5, 1⟩

/-- Twice a point. -/
def double (p : Point) : Point :=
  if p.z = 0 ∨ p.y = 0 then zero
  else
    let yy := p.y * p.y % prime
    let s := 4 * p.x * yy % prime
    let zz := p.z * p.z % prime
    let m := 3 * (p.x + zz) * (p.x + (prime - zz)) % prime
    let x := (m * m + 2 * (prime - s)) % prime
    ⟨x, (m * (s + (prime - x)) + 8 * (prime - yy * yy % prime)) % prime, 2 * p.y * p.z % prime⟩

/-- The sum of two points. -/
def add (p q : Point) : Point :=
  if p.z = 0 then q
  else if q.z = 0 then p
  else
    let pzz := p.z * p.z % prime
    let qzz := q.z * q.z % prime
    let u := p.x * qzz % prime
    let v := q.x * pzz % prime
    let s := p.y * qzz * q.z % prime
    let t := q.y * pzz * p.z % prime
    if u = v then if s = t then double p else zero
    else
      let h := (v + (prime - u)) % prime
      let r := (t + (prime - s)) % prime
      let hh := h * h % prime
      let hhh := hh * h % prime
      let w := u * hh % prime
      let x := (r * r + (prime - hhh) + 2 * (prime - w)) % prime
      ⟨x, (r * (w + (prime - x)) + (prime - s) * hhh) % prime, h * p.z * q.z % prime⟩

/-- A multiple of a point, by doubling: the bits of the factor are used from the highest. -/
def multiply (n : Nat) (p : Point) : Point :=
  (List.range (n.log2 + 1)).reverse.foldl (fun acc i =>
    let twice := double acc
    if n.testBit i then add twice p else twice) zero

/-- The coordinates of a point other than zero. -/
def affine? (p : Point) : Option (Nat × Nat) :=
  if p.z = 0 then none
  else
    let i := inverse p.z prime
    let ii := i * i % prime
    some (p.x * ii % prime, p.y * ii % prime * i % prime)

end Point

/-- Whether a pair of coordinates is a point of the curve. -/
def isOnCurve (x y : Nat) : Bool :=
  x < prime && y < prime && y * y % prime == (x * x * x + (prime - 3) * x + b) % prime

/-- The number that bytes make, the most significant first. -/
def ofBytes (bytes : Bytes) : Nat := bytes.foldl (fun n byte => n * 256 + byte.toNat) 0

/-- A number as 32 bytes. -/
def toBytes (n : Nat) : Bytes := Sha256.bigEndian 32 n

/-- A private key: a factor for the generator, neither zero nor a multiple of the order. -/
structure PrivateKey where
  scalar : Nat
  pos : 0 < scalar
  lt_order : scalar < order
deriving DecidableEq

namespace PrivateKey

/-- The key of a factor in range. -/
def ofNat? (n : Nat) : Option PrivateKey :=
  if h : 0 < n ∧ n < order then some ⟨n, h.1, h.2⟩ else none

/-- The key that bytes make. Up to eight leading zero bytes may be left out of the 32. -/
def ofBytes? (bytes : Bytes) : Option PrivateKey :=
  if 24 ≤ bytes.length ∧ bytes.length ≤ 32 then ofNat? (ofBytes bytes) else none

/-- The coordinates of the public point. -/
def publicPoint? (key : PrivateKey) : Option (Nat × Nat) :=
  (Point.multiply key.scalar .generator).affine?

end PrivateKey
end TicketGrant.P256
