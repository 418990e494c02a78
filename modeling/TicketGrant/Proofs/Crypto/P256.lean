import Mathlib.AlgebraicGeometry.EllipticCurve.Affine.Point
import TicketGrant.Proofs.Crypto.Primes

/-!
# The group of P-256

What is computed with points in projective form is the group of the curve: doubles, sums and
multiples of points represent those of the points that they represent (`represents_multiply`). The
generator has as many multiples as the order says, which is a prime; so no private key is without a
public one (`PrivateKey.isSome_publicPoint?`).
-/
namespace TicketGrant.P256

open WeierstrassCurve.Affine

/-! ### Coordinates -/

/-- The numbers that coordinates are. -/
abbrev Coordinate : Type := ZMod prime

theorem cast_sub_mod (n : Nat) : ((prime - n % prime : Nat) : Coordinate) = -n := by
  have hle : n % prime ≤ prime := (Nat.mod_lt n prime_prime.pos).le
  rw [Nat.cast_sub hle, ZMod.natCast_self, ZMod.natCast_mod, zero_sub]

theorem cast_two_ne_zero : (2 : Coordinate) ≠ 0 := by
  have h : ((2 : Nat) : Coordinate) ≠ 0 := by
    rw [Ne, ZMod.natCast_eq_zero_iff]
    decide
  exact_mod_cast h

theorem mod_eq_zero_of_cast {n : Nat} (h : (n : Coordinate) = 0) : n % prime = 0 :=
  Nat.mod_eq_zero_of_dvd ((ZMod.natCast_eq_zero_iff n prime).mp h)

theorem ne_zero_of_cast_ne_zero {n : Nat} (h : (n : Coordinate) ≠ 0) : n ≠ 0 :=
  fun heq => h (by rw [heq, Nat.cast_zero])

/-! ### The curve -/

/-- The curve. -/
def curve : WeierstrassCurve.Affine Coordinate where
  a₁ := 0
  a₂ := 0
  a₃ := 0
  a₄ := -3
  a₆ := b

section Curve
variable (x x' y y' slope : Coordinate)

theorem negY_eq : curve.negY x y = -y := by simp [negY, curve]

theorem addX_eq : curve.addX x x' slope = slope ^ 2 - x - x' := by simp [addX, curve]

theorem addY_eq : curve.addY x x' y slope = slope * (x - curve.addX x x' slope) - y := by
  rw [addY, negY_eq, negAddY]
  ring

variable {x x' y}

theorem ne_negY (hy : y ≠ 0) : y ≠ curve.negY x y := by
  intro h
  have hsum : 2 * y = 0 := by
    rw [negY_eq] at h
    linear_combination h
  exact hy ((mul_eq_zero.mp hsum).resolve_left cast_two_ne_zero)

variable (x) in
theorem slope_double (hy : y ≠ 0) : curve.slope x x y y * (2 * y) = 3 * x ^ 2 - 3 := by
  have hdouble : y - curve.negY x y = 2 * y := by
    rw [negY_eq]
    ring
  rw [slope_of_Y_ne rfl (ne_negY hy), hdouble,
    div_mul_cancel₀ _ (mul_ne_zero cast_two_ne_zero hy)]
  simp only [curve]
  ring

variable (y) in
theorem slope_add (hx : x ≠ x') : curve.slope x x' y y' * (x - x') = y - y' := by
  rw [slope_of_X_ne hx, div_mul_cancel₀ _ (sub_ne_zero.mpr hx)]

end Curve

/-- A point in projective form represents a point of the curve. -/
inductive Point.Represents (p : P256.Point) : curve.Point → Prop
  | zero : p.z = 0 → Represents p 0
  | some {x y : Coordinate} (h : curve.Nonsingular x y) : (p.z : Coordinate) ≠ 0 →
      (p.x : Coordinate) = x * p.z ^ 2 → (p.y : Coordinate) = y * p.z ^ 3 →
      Represents p (.some x y h)

namespace Point

/-- Twice a point that is neither zero nor on the axis. -/
theorem cast_double {p : P256.Point} (hy : p.y ≠ 0) (hz : p.z ≠ 0) :
    (p.double.z : Coordinate) = 2 * p.y * p.z ∧
      (p.double.x : Coordinate) =
        (3 * (p.x + p.z ^ 2) * (p.x - p.z ^ 2)) ^ 2 - 8 * p.x * p.y ^ 2 ∧
      (p.double.y : Coordinate) =
        3 * (p.x + p.z ^ 2) * (p.x - p.z ^ 2) * (4 * p.x * p.y ^ 2 - p.double.x) - 8 * p.y ^ 4 := by
  rw [double, if_neg (not_or.mpr ⟨hz, hy⟩)]
  simp only [ZMod.natCast_mod, Nat.cast_add, Nat.cast_mul, cast_sub_mod, Nat.cast_ofNat]
  refine ⟨trivial, ?_, ?_⟩
  · ring
  · ring

section Double
variable {p : P256.Point} {x y : Coordinate} (h : curve.Nonsingular x y)
  (hz : (p.z : Coordinate) ≠ 0) (hx : (p.x : Coordinate) = x * p.z ^ 2)
  (hy : (p.y : Coordinate) = y * p.z ^ 3)
include hz hx hy

theorem represents_double_of_ne (hne : y ≠ 0) :
    p.double.Represents (.some x y h + .some x y h) := by
  have hyz : y * (p.z : Coordinate) ^ 3 ≠ 0 := mul_ne_zero hne (pow_ne_zero 3 hz)
  obtain ⟨hdz, hdx, hdy⟩ := cast_double (ne_zero_of_cast_ne_zero (hy ▸ hyz))
    (ne_zero_of_cast_ne_zero hz)
  have hslope := slope_double x hne
  rw [Point.add_self_of_Y_ne (ne_negY hne)]
  rw [hx, hy] at hdx hdy
  rw [hy] at hdz
  have hX : (p.double.x : Coordinate) =
      curve.addX x x (curve.slope x x y y) * (p.double.z : Coordinate) ^ 2 := by
    rw [hdx, hdz, addX_eq]
    linear_combination (-(p.z : Coordinate) ^ 8 *
      (3 * x ^ 2 - 3 + curve.slope x x y y * (2 * y))) * hslope
  refine .some _ ?_ hX ?_
  · rw [hdz]
    exact mul_ne_zero (mul_ne_zero cast_two_ne_zero hyz) hz
  · rw [hdy, hX, hdz, addY_eq]
    linear_combination (-(p.z : Coordinate) ^ 12 * (4 * y ^ 2) *
      (x - curve.addX x x (curve.slope x x y y))) * hslope

end Double

theorem represents_double {p : P256.Point} {P : curve.Point} (h : p.Represents P) :
    p.double.Represents (P + P) := by
  cases h with
  | zero hz =>
    rw [double, if_pos (.inl hz), add_zero]
    exact .zero rfl
  | @some x y h hz hx hy =>
    by_cases hzero : y = 0
    · -- twice a point on the axis is zero, whether or not this is noticed
      rw [Point.add_self_of_Y_eq (by rw [negY_eq, hzero, neg_zero])]
      rw [hzero, zero_mul] at hy
      refine .zero ?_
      rw [double]
      split
      · rfl
      · refine mod_eq_zero_of_cast ?_
        rw [Nat.cast_mul, Nat.cast_mul, hy, mul_zero, zero_mul]
    · exact represents_double_of_ne h hz hx hy hzero

/-- The sum of two points that are neither zero nor of one first coordinate. -/
theorem cast_add {p q : P256.Point} (hp : p.z ≠ 0) (hq : q.z ≠ 0)
    (hne : (p.x : Coordinate) * q.z ^ 2 ≠ q.x * p.z ^ 2) :
    let h : Coordinate := q.x * p.z ^ 2 - p.x * q.z ^ 2
    let r : Coordinate := q.y * p.z ^ 3 - p.y * q.z ^ 3
    ((p.add q).z : Coordinate) = h * p.z * q.z ∧
      ((p.add q).x : Coordinate) = r ^ 2 - h ^ 3 - 2 * (p.x * q.z ^ 2 * h ^ 2) ∧
      ((p.add q).y : Coordinate) =
        r * (p.x * q.z ^ 2 * h ^ 2 - (p.add q).x) - p.y * q.z ^ 3 * h ^ 3 := by
  intro h r
  have huv : p.x * (q.z * q.z % prime) % prime ≠ q.x * (p.z * p.z % prime) % prime := by
    rw [Ne, ← ZMod.natCast_eq_natCast_iff']
    simpa [pow_two] using hne
  rw [add, if_neg hp, if_neg hq]
  simp only [if_neg huv, ZMod.natCast_mod, Nat.cast_add, Nat.cast_mul, cast_sub_mod,
    Nat.cast_ofNat]
  refine ⟨?_, ?_, ?_⟩
  · ring
  · ring
  · ring

/-- Two points of one first coordinate are the same, or their sum is zero. -/
theorem add_of_same_x {p q : P256.Point} (hp : p.z ≠ 0) (hq : q.z ≠ 0)
    (heq : (p.x : Coordinate) * q.z ^ 2 = q.x * p.z ^ 2) :
    p.add q = if (p.y : Coordinate) * q.z ^ 3 = q.y * p.z ^ 3 then p.double else zero := by
  have huv : p.x * (q.z * q.z % prime) % prime = q.x * (p.z * p.z % prime) % prime := by
    rw [← ZMod.natCast_eq_natCast_iff']
    simpa [pow_two] using heq
  have hst : p.y * (q.z * q.z % prime) * q.z % prime = q.y * (p.z * p.z % prime) * p.z % prime ↔
      (p.y : Coordinate) * q.z ^ 3 = q.y * p.z ^ 3 := by
    rw [← ZMod.natCast_eq_natCast_iff']
    simp [pow_succ, mul_assoc]
  rw [add, if_neg hp, if_neg hq]
  simp only [if_pos huv, hst]

section Add
variable {p q : P256.Point} {x x' y y' : Coordinate} (h : curve.Nonsingular x y)
  (h' : curve.Nonsingular x' y') (hz : (p.z : Coordinate) ≠ 0) (hz' : (q.z : Coordinate) ≠ 0)
  (hx : (p.x : Coordinate) = x * p.z ^ 2) (hx' : (q.x : Coordinate) = x' * q.z ^ 2)
  (hy : (p.y : Coordinate) = y * p.z ^ 3) (hy' : (q.y : Coordinate) = y' * q.z ^ 3)
include hz hz' hx hx' hy hy'

theorem represents_add_of_ne (hne : x ≠ x') :
    (p.add q).Represents (.some x y h + .some x' y' h') := by
  have hscaled : (p.x : Coordinate) * q.z ^ 2 ≠ q.x * p.z ^ 2 := by
    intro heq
    have hscale : (p.z ^ 2 * q.z ^ 2 : Coordinate) ≠ 0 :=
      mul_ne_zero (pow_ne_zero 2 hz) (pow_ne_zero 2 hz')
    rw [hx, hx'] at heq
    exact hne (mul_right_cancel₀ hscale (by linear_combination heq))
  obtain ⟨hsz, hsx, hsy⟩ := cast_add (ne_zero_of_cast_ne_zero hz) (ne_zero_of_cast_ne_zero hz')
    hscaled
  have hslope := slope_add y y' hne
  rw [Point.add_of_X_ne hne]
  rw [hx, hx', hy, hy'] at hsx hsy
  rw [hx, hx'] at hsz
  have hX : ((p.add q).x : Coordinate) =
      curve.addX x x' (curve.slope x x' y y') * ((p.add q).z : Coordinate) ^ 2 := by
    rw [hsx, hsz, addX_eq]
    linear_combination (-(p.z * q.z : Coordinate) ^ 6 *
      (y - y' + curve.slope x x' y y' * (x - x'))) * hslope
  refine .some _ ?_ hX ?_
  · rw [hsz]
    have hsub : x' * q.z ^ 2 * p.z ^ 2 - x * p.z ^ 2 * q.z ^ 2 ≠ 0 := by
      rw [hx, hx'] at hscaled
      exact sub_ne_zero.mpr hscaled.symm
    exact mul_ne_zero (mul_ne_zero hsub hz) hz'
  · rw [hsy, hX, hsz, addY_eq]
    linear_combination ((p.z * q.z : Coordinate) ^ 9 * (x' - x) ^ 2 *
      (x - curve.addX x x' (curve.slope x x' y y'))) * hslope

end Add

theorem represents_add {p q : P256.Point} {P Q : curve.Point} (hp : p.Represents P)
    (hq : q.Represents Q) : (p.add q).Represents (P + Q) := by
  cases hp with
  | zero hz =>
    rw [add, if_pos hz, zero_add]
    exact hq
  | @some x y h hz hx hy =>
    have hz0 := ne_zero_of_cast_ne_zero hz
    have hp : p.Represents (.some x y h) := .some h hz hx hy
    cases hq with
    | zero hz' =>
      rw [add, if_neg hz0, if_pos hz', add_zero]
      exact hp
    | @some x' y' h' hz' hx' hy' =>
      by_cases hxx : x = x'
      · subst hxx
        rw [add_of_same_x hz0 (ne_zero_of_cast_ne_zero hz') (by rw [hx, hx']; ring)]
        split
        · rename_i heq
          have hscale : (p.z ^ 3 * q.z ^ 3 : Coordinate) ≠ 0 :=
            mul_ne_zero (pow_ne_zero 3 hz) (pow_ne_zero 3 hz')
          rw [hy, hy'] at heq
          obtain rfl : y = y' := mul_right_cancel₀ hscale (by linear_combination heq)
          exact represents_double hp
        · rename_i hne
          have hyy : y ≠ y' := by
            rintro rfl
            exact hne (by rw [hy, hy']; ring)
          rw [Point.add_of_Y_eq rfl ((Y_eq_of_X_eq h.1 h'.1 rfl).resolve_left hyy)]
          exact .zero rfl
      · exact represents_add_of_ne h h' hz hz' hx hx' hy hy' hxx

theorem represents_multiply {p : P256.Point} {P : curve.Point} (h : p.Represents P) (n : Nat) :
    (multiply n p).Represents (n • P) := by
  have hinit : Point.zero.Represents (0 • P) := by
    rw [zero_nsmul]
    exact .zero rfl
  refine holds_foldl_bits (fun k (acc : P256.Point) => acc.Represents (k • P))
    (fun k acc i hacc => ?_) hinit
  have hdouble : acc.double.Represents ((2 * k) • P) := by
    rw [two_mul, add_nsmul]
    exact represents_double hacc
  dsimp only
  cases n.testBit i with
  | false => exact hdouble
  | true =>
    rw [Bool.toNat_true, add_nsmul, one_nsmul]
    exact represents_add hdouble h

theorem affine?_eq_none_iff {p : P256.Point} {P : curve.Point} (h : p.Represents P) :
    p.affine? = none ↔ P = 0 := by
  cases h with
  | zero hz => simp [affine?, hz]
  | some h hz hx hy => simp [affine?, ne_zero_of_cast_ne_zero hz]

end Point

/-! ### The generator -/

instance : curve.IsElliptic where
  isUnit := by
    have hne : ((432 * b ^ 2 : Nat) : Coordinate) ≠ (1728 : Nat) := by
      rw [Ne, ZMod.natCast_eq_natCast_iff']
      decide +kernel
    have hdiscriminant : curve.Δ = 1728 - 432 * b ^ 2 := by
      simp only [WeierstrassCurve.Δ, WeierstrassCurve.b₂, WeierstrassCurve.b₄,
        WeierstrassCurve.b₆, WeierstrassCurve.b₈, curve]
      ring
    rw [hdiscriminant, isUnit_iff_ne_zero, sub_ne_zero]
    exact_mod_cast hne.symm

theorem nonsingular_of_isOnCurve {x y : Nat} (h : isOnCurve x y = true) :
    curve.Nonsingular x y := by
  rw [isOnCurve, Bool.and_eq_true, beq_iff_eq, ← ZMod.natCast_eq_natCast_iff'] at h
  have heq := h.2
  have hthree : 3 ≤ prime := by decide
  push_cast [Nat.cast_sub hthree, ZMod.natCast_self] at heq
  rw [← equation_iff_nonsingular, equation_iff]
  simp only [curve]
  linear_combination heq

theorem Point.represents_of_isOnCurve {x y : Nat} (h : isOnCurve x y = true) :
    Represents ⟨x, y, 1⟩ (.some _ _ (nonsingular_of_isOnCurve h)) := by
  refine .some _ ?_ ?_ ?_
  · simp
  · simp
  · simp

theorem isOnCurve_generator : isOnCurve Point.generator.x Point.generator.y = true := by
  decide +kernel

/-- The generator as a point of the curve. -/
def generator : curve.Point := .some _ _ (nonsingular_of_isOnCurve isOnCurve_generator)

theorem Point.represents_generator : Point.generator.Represents P256.generator :=
  represents_of_isOnCurve isOnCurve_generator

theorem addOrderOf_generator : addOrderOf generator = order := by
  refine addOrderOf_eq_prime ?_ (Point.some_ne_zero _)
  have hmultiple := Point.represents_multiply Point.represents_generator order
  exact (Point.affine?_eq_none_iff hmultiple).mp (by decide +kernel)

/-- A multiple of the generator by a factor in range is not zero. -/
theorem affine?_multiply_generator {n : Nat} (hpos : 0 < n) (hlt : n < order) :
    (Point.multiply n .generator).affine?.isSome = true := by
  have hmultiple := Point.represents_multiply Point.represents_generator n
  rw [Option.isSome_iff_ne_none, Ne, Point.affine?_eq_none_iff hmultiple,
    ← addOrderOf_dvd_iff_nsmul_eq_zero, addOrderOf_generator]
  exact Nat.not_dvd_of_pos_of_lt hpos hlt

/-- Every private key has a public one. -/
theorem PrivateKey.isSome_publicPoint? (key : PrivateKey) : key.publicPoint?.isSome = true :=
  affine?_multiply_generator key.pos key.lt_order

end TicketGrant.P256
