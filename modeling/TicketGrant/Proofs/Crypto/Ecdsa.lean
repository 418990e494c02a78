import Mathlib.FieldTheory.Finite.Basic
import TicketGrant.Crypto.Ecdsa
import TicketGrant.Proofs.Crypto.P256

/-!
# Signatures fit

What a private key signs, its public point verifies (`verify_of_sign`). The numbers of a signature
are computed modulo the order of the generator, so they may be counted as factors of it: both parts
that a verification adds up come to the multiple that the secret factor made. Signatures and points
are found again in the bytes that they are written as.
-/
namespace TicketGrant

namespace P256

open WeierstrassCurve.Affine

/-! ### Inverses -/

/-- Fermat: the last power but one before a prime is the inverse. -/
theorem cast_inverse {p : Nat} [Fact p.Prime] (hp : 2 < p) (x : Nat) :
    (inverse x p : ZMod p) = (x : ZMod p)⁻¹ := by
  rw [inverse, powMod_eq, ZMod.natCast_mod, Nat.cast_pow]
  by_cases hx : (x : ZMod p) = 0
  · rw [hx, inv_zero, zero_pow (by omega)]
  · have hpred : p - 2 + 1 = p - 1 := by omega
    refine eq_inv_of_mul_eq_one_left ?_
    rw [← pow_succ, hpred, ZMod.pow_card_sub_one_eq_one hx]

theorem two_lt_prime : 2 < prime := by decide

theorem two_lt_order : 2 < order := by decide

/-! ### Coordinates of points -/

/-- The coordinates of a point other than zero, as numbers below the prime. -/
def coordinates? : curve.Point → Option (Nat × Nat)
  | 0 => none
  | .some x y _ => some (x.val, y.val)

theorem mod_prime_eq_val {n : Nat} {c : Coordinate} (h : (n : Coordinate) = c) :
    n % prime = c.val := by
  rw [← h, ZMod.val_natCast]

/-- All projective forms of a point have its coordinates. -/
theorem Point.affine?_of_represents {p : P256.Point} {P : curve.Point} (h : p.Represents P) :
    p.affine? = coordinates? P := by
  cases h with
  | zero hz =>
    rw [affine?, if_pos hz]
    rfl
  | @some x y h hz hx hy =>
    have hinverse : (inverse p.z prime : Coordinate) = (p.z : Coordinate)⁻¹ :=
      cast_inverse two_lt_prime p.z
    rw [affine?, if_neg (ne_zero_of_cast_ne_zero hz)]
    generalize inverse p.z prime = i at hinverse
    have hfirst : ((p.x * (i * i % prime) : Nat) : Coordinate) = x := by
      rw [Nat.cast_mul, ZMod.natCast_mod, Nat.cast_mul, hinverse, hx]
      field_simp
    have hsecond : ((p.y * (i * i % prime) % prime * i : Nat) : Coordinate) = y := by
      rw [Nat.cast_mul, ZMod.natCast_mod, Nat.cast_mul, ZMod.natCast_mod, Nat.cast_mul, hinverse,
        hy]
      field_simp
    dsimp only
    rw [mod_prime_eq_val hfirst, mod_prime_eq_val hsecond]
    rfl

/-- Coordinates of a point lie on the curve, and are a projective form of the point. -/
theorem represents_of_coordinates {P : curve.Point} {x y : Nat} (h : coordinates? P = some (x, y)) :
    isOnCurve x y = true ∧ Point.Represents ⟨x, y, 1⟩ P := by
  cases P with
  | zero => cases h
  | some X Y hXY =>
    simp only [coordinates?, Option.some.injEq, Prod.mk.injEq] at h
    obtain ⟨rfl, rfl⟩ := h
    have hequation := (equation_iff _ _).mp hXY.1
    constructor
    · have hthree : 3 ≤ prime := by decide
      rw [isOnCurve, Bool.and_eq_true, Bool.and_eq_true, decide_eq_true_iff, decide_eq_true_iff,
        beq_iff_eq, ← ZMod.natCast_eq_natCast_iff']
      refine ⟨⟨ZMod.val_lt X, ZMod.val_lt Y⟩, ?_⟩
      push_cast [Nat.cast_sub hthree, ZMod.natCast_self, ZMod.natCast_zmod_val]
      simp only [curve] at hequation
      linear_combination hequation
    · refine .some hXY ?_ ?_ ?_
      · simp
      · simp
      · simp

/-- A multiple of the generator, as it is computed, has the coordinates of the point. -/
theorem affine?_multiply (n : Nat) :
    (Point.multiply n .generator).affine? = coordinates? (n • generator) :=
  Point.affine?_of_represents (Point.represents_multiply Point.represents_generator n)

theorem lt_prime_of_isOnCurve {x y : Nat} (h : isOnCurve x y = true) : x < prime ∧ y < prime := by
  simp only [isOnCurve, Bool.and_eq_true, decide_eq_true_iff] at h
  exact h.1

/-- The public point of a private key is the multiple of the generator by the key. -/
theorem PrivateKey.represents_publicPoint {key : PrivateKey} {x y : Nat}
    (h : key.publicPoint? = some (x, y)) :
    isOnCurve x y = true ∧ Point.Represents ⟨x, y, 1⟩ (key.scalar • generator) := by
  rw [publicPoint?, affine?_multiply] at h
  exact represents_of_coordinates h

/-! ### Bytes of numbers -/

theorem foldl_bigEndian (count n start : Nat) :
    (Sha256.bigEndian count n).foldl (fun n byte => n * 256 + byte.toNat) start =
      start * 256 ^ count + n % 256 ^ count := by
  induction count generalizing start with
  | zero => simp [Sha256.bigEndian, Nat.mod_one]
  | succ count ih =>
    have hbyte : (UInt8.ofNat (n / Nat.pow 256 count % 256)).toNat = n / 256 ^ count % 256 := by
      rw [UInt8.toNat_ofNat', Nat.mod_mod]
      rfl
    have hcons : Sha256.bigEndian (count + 1) n =
        UInt8.ofNat (n / Nat.pow 256 count % 256) :: Sha256.bigEndian count n := by
      simp [Sha256.bigEndian, List.range_succ]
    rw [hcons, List.foldl_cons, ih, hbyte, Nat.mod_pow_succ, Nat.pow_succ]
    ring

/-- A number of 32 bytes is found again. -/
theorem ofBytes_toBytes {n : Nat} (h : n < 2 ^ 256) : ofBytes (toBytes n) = n := by
  have hsize : (256 : Nat) ^ 32 = 2 ^ 256 := by norm_num
  rw [ofBytes, toBytes, foldl_bigEndian, hsize, Nat.zero_mul, Nat.zero_add, Nat.mod_eq_of_lt h]

@[simp] theorem length_toBytes (n : Nat) : (toBytes n).length = 32 := by
  simp [toBytes, Sha256.bigEndian]

theorem prime_lt : prime < 2 ^ 256 := by decide

theorem order_lt : order < 2 ^ 256 := by decide

end P256

namespace Ecdsa

open P256

/-! ### Signing -/

/-- A signature is there as soon as the secret factor is, unless one of its numbers is zero. -/
theorem sign?_eq_some_iff {key : PrivateKey} {message : Bytes} {sig : Signature} :
    sign? key message = some sig ↔
      ∃ k x y, secretFactor? key message = some k ∧
        coordinates? (k • P256.generator) = some (x, y) ∧ sig.r = x % order ∧
        sig.s = inverse k order * (messageNumber message + sig.r * key.scalar) % order ∧
        sig.r ≠ 0 ∧ sig.s ≠ 0 := by
  rcases sig with ⟨r, s⟩
  simp only [sign?, affine?_multiply, Option.bind_eq_bind, Option.bind_eq_some_iff, Prod.exists]
  constructor
  · rintro ⟨k, hk, x, y, hxy, h⟩
    split at h
    · cases h
    · rename_i hne
      cases h
      exact ⟨k, x, y, hk, hxy, rfl, rfl, fun h => hne (.inl h), fun h => hne (.inr h)⟩
  · rintro ⟨k, x, y, hk, hxy, rfl, rfl, hr, hs⟩
    refine ⟨k, hk, x, y, hxy, ?_⟩
    rw [if_neg (not_or.mpr ⟨hr, hs⟩)]

/-- Secret factors are in range. -/
theorem Generator.range_of_next {g : Generator} {attempts k : Nat} (h : g.next? attempts = some k) :
    0 < k ∧ k < order := by
  induction attempts generalizing g with
  | zero => cases h
  | succ attempts ih =>
    rw [next?] at h
    split at h
    · rename_i hrange
      cases h
      exact hrange
    · exact ih h

/-- The secret factor for a message makes a number of the signature zero. -/
def Refuses (key : PrivateKey) (message : Bytes) : Prop :=
  ∃ k x y, secretFactor? key message = some k ∧
    coordinates? (k • P256.generator) = some (x, y) ∧
    (x % order = 0 ∨
      inverse k order * (messageNumber message + x % order * key.scalar) % order = 0)

/-- None of the candidates that are tried for a message can be its secret factor. -/
def RunsOut (key : PrivateKey) (message : Bytes) : Prop := secretFactor? key message = none

/-- There is no signature if the secret factor will not do, or if none was found. -/
theorem sign?_eq_none_iff {key : PrivateKey} {message : Bytes} :
    sign? key message = none ↔ Refuses key message ∨ RunsOut key message := by
  rw [Refuses, RunsOut]
  cases hk : secretFactor? key message with
  | none => simp [sign?, hk]
  | some k =>
    obtain ⟨hpos, hlt⟩ := Generator.range_of_next hk
    obtain ⟨⟨x, y⟩, hxy⟩ := Option.isSome_iff_exists.mp (affine?_multiply_generator hpos hlt)
    have hcoordinates := (affine?_multiply k).symm.trans hxy
    simp [sign?, hk, hxy, hcoordinates, or_iff_not_imp_left]

/-- Both numbers of a signature are in range. -/
theorem range_of_sign {key : PrivateKey} {message : Bytes} {sig : Signature}
    (h : sign? key message = some sig) :
    (0 < sig.r ∧ sig.r < order) ∧ 0 < sig.s ∧ sig.s < order := by
  obtain ⟨k, x, y, -, -, hr, hs, hrne, hsne⟩ := sign?_eq_some_iff.mp h
  have hpos : 0 < order := prime_order.pos
  refine ⟨⟨Nat.pos_of_ne_zero hrne, ?_⟩, Nat.pos_of_ne_zero hsne, ?_⟩
  · rw [hr]
    exact Nat.mod_lt _ hpos
  · rw [hs]
    exact Nat.mod_lt _ hpos

/-- What a verification adds up is the secret factor, if the signature was made with it. -/
theorem factor_of_signature {z r s d k : ZMod order} (hs : s = k⁻¹ * (z + r * d)) (hne : s ≠ 0) :
    z * s⁻¹ + r * s⁻¹ * d = k := by
  have hk : k ≠ 0 := by
    rintro rfl
    simp [hs] at hne
  have hsum : z + r * d = k * s := by
    rw [hs, mul_inv_cancel_left₀ hk]
  calc
    z * s⁻¹ + r * s⁻¹ * d = (z + r * d) * s⁻¹ := by ring
    _ = k := by rw [hsum, mul_inv_cancel_right₀ hne]

/-- What a private key signs, its public point verifies. -/
theorem verify_of_sign {key : PrivateKey} {message : Bytes} {sig : Signature} {x y : Nat}
    (hsign : sign? key message = some sig) (hpublic : key.publicPoint? = some (x, y)) :
    verify x y message sig = true := by
  obtain ⟨⟨hr, hrlt⟩, hs, hslt⟩ := range_of_sign hsign
  obtain ⟨k, v, w, -, hcoordinates, hvr, hsig, -, -⟩ := sign?_eq_some_iff.mp hsign
  obtain ⟨hcurve, hpoint⟩ := PrivateKey.represents_publicPoint hpublic
  -- the two multiples that are added come to the multiple by the secret factor
  have hsum : (messageNumber message * inverse sig.s order % order) • P256.generator +
      (sig.r * inverse sig.s order % order) • key.scalar • P256.generator =
        k • P256.generator := by
    have hne : (sig.s : ZMod order) ≠ 0 := by
      rw [Ne, ZMod.natCast_eq_zero_iff]
      exact Nat.not_dvd_of_pos_of_lt hs hslt
    have hmade : (sig.s : ZMod order) =
        (k : ZMod order)⁻¹ * (messageNumber message + sig.r * key.scalar) := by
      rw [hsig, ZMod.natCast_mod]
      push_cast [cast_inverse two_lt_order]
      rfl
    rw [smul_smul, ← add_nsmul, nsmul_eq_nsmul_iff_modEq, addOrderOf_generator,
      ← ZMod.natCast_eq_natCast_iff]
    push_cast [ZMod.natCast_mod, cast_inverse two_lt_order]
    exact factor_of_signature hmade hne
  have hadd := Point.represents_add
    (Point.represents_multiply Point.represents_generator
      (messageNumber message * inverse sig.s order % order))
    (Point.represents_multiply hpoint (sig.r * inverse sig.s order % order))
  rw [hsum] at hadd
  simp only [verify, Point.affine?_of_represents hadd, hcoordinates, hcurve, hr, hrlt, hs, hslt,
    decide_true, Bool.and_true, Bool.true_and]
  exact beq_iff_eq.mpr hvr.symm

/-! ### Bytes of signatures -/

theorem length_toBytes (sig : Signature) : sig.toBytes.length = 64 := by
  simp [Signature.toBytes]

/-- A signature is found again in its bytes. -/
theorem ofBytes?_toBytes {sig : Signature} (hr : sig.r < order) (hs : sig.s < order) :
    Signature.ofBytes? sig.toBytes = some sig := by
  have htake : sig.toBytes.take 32 = P256.toBytes sig.r :=
    List.take_left' (P256.length_toBytes sig.r)
  have hdrop : sig.toBytes.drop 32 = P256.toBytes sig.s :=
    List.drop_left' (P256.length_toBytes sig.r)
  rw [Signature.ofBytes?, if_pos (length_toBytes sig), htake, hdrop,
    ofBytes_toBytes (hr.trans order_lt), ofBytes_toBytes (hs.trans order_lt)]

end Ecdsa
end TicketGrant
