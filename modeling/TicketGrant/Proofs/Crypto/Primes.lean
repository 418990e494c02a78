import Mathlib.Data.List.Prime
import Mathlib.NumberTheory.LucasPrimality
import Mathlib.Tactic.NormNum.Prime
import TicketGrant.Crypto.P256

/-!
# The primes of P-256

Coordinates are numbers modulo a prime, and there is a prime number of points. Both primes are too
large to be tried with divisors. But what precedes each of them is a product of numbers that are
known as primes, or are shown to be primes in the same way (`prime_of_returnsAt`).
-/
namespace TicketGrant.P256

/-! ### Bits -/

section Bits
variable {α : Type} (holds : Nat → α → Prop) {n : Nat} {step : α → Nat → α}
  (hstep : ∀ m acc i, holds m acc → holds (2 * m + (n.testBit i).toNat) (step acc i))
include hstep

theorem holds_foldl_bits_below {m : Nat} {acc : α} (h : holds m acc) (k : Nat) :
    holds (m * 2 ^ k + n % 2 ^ k) ((List.range k).reverse.foldl step acc) := by
  induction k generalizing m acc with
  | zero => simpa [Nat.mod_one] using h
  | succ k ih =>
    have hmore := ih (hstep m acc k h)
    have hsum : (2 * m + (n.testBit k).toNat) * 2 ^ k + n % 2 ^ k =
        m * 2 ^ (k + 1) + n % 2 ^ (k + 1) := by
      rw [Nat.mod_pow_succ, Nat.toNat_testBit, Nat.pow_succ]
      ring
    rw [List.range_succ, List.reverse_concat, List.foldl_cons, ← hsum]
    exact hmore

/-- What is done with the bits of a number from the highest to the lowest, comes to the number. -/
theorem holds_foldl_bits {init : α} (h : holds 0 init) :
    holds n ((List.range (n.log2 + 1)).reverse.foldl step init) := by
  have hall := holds_foldl_bits_below holds hstep h (n.log2 + 1)
  rwa [Nat.zero_mul, Nat.zero_add, Nat.mod_eq_of_lt Nat.lt_log2_self] at hall

end Bits

theorem powMod_eq (x e m : Nat) : powMod x e m = x ^ e % m := by
  refine holds_foldl_bits (fun k acc => acc = x ^ k % m) (fun k acc i hacc => ?_) rfl
  have hsquare : acc * acc % m = x ^ (2 * k) % m := by
    rw [hacc, ← Nat.mul_mod, ← pow_add, Nat.two_mul]
  cases e.testBit i with
  | false => exact hsquare
  | true =>
    show acc * acc % m * x % m = x ^ (2 * k + 1) % m
    rw [hsquare, Nat.mod_mul_mod, pow_succ]

/-! ### Primes -/

/-- The powers of `a` modulo `p` return to one at `p - 1`, and not at what is left of it without one
of its factors. -/
def ReturnsAt (p a : Nat) (factors : List Nat) : Prop :=
  1 < p ∧ factors.prod = p - 1 ∧ powMod a (p - 1) p = 1 ∧
    ∀ q ∈ factors, powMod a ((p - 1) / q) p ≠ 1

instance (p a : Nat) (factors : List Nat) : Decidable (ReturnsAt p a factors) :=
  inferInstanceAs (Decidable (_ ∧ _ ∧ _ ∧ _))

/-- The test of Lucas. -/
theorem prime_of_returnsAt {p : Nat} (a : Nat) (factors : List Nat)
    (hprime : ∀ q ∈ factors, q.Prime) (h : ReturnsAt p a factors) : p.Prime := by
  obtain ⟨hp, hfactors, hone, hne⟩ := h
  have hcast (n : Nat) : (a : ZMod p) ^ n = 1 ↔ powMod a n p = 1 := by
    rw [powMod_eq, ← Nat.cast_pow, ← Nat.cast_one, ZMod.natCast_eq_natCast_iff',
      Nat.mod_eq_of_lt hp]
  refine lucas_primality p a ((hcast _).mpr hone) fun q hq hdvd => ?_
  have hmem : q ∈ factors := mem_list_primes_of_dvd_prod hq.prime
    (fun factor hfactor => (hprime factor hfactor).prime) (hfactors ▸ hdvd)
  exact fun heq => hne q hmem ((hcast _).mp heq)

/-- The largest factor of what precedes the prime of the coordinates. -/
theorem prime_largestFactor : Nat.Prime 835945042244614951780389953367877943453916927241 := by
  have h₁ : Nat.Prime 34282281433 :=
    prime_of_returnsAt 17 [2, 2, 2, 3, 7, 204061199] (by norm_num) (by decide +kernel)
  have h₂ : Nat.Prime 66417393611 :=
    prime_of_returnsAt 6 [2, 5, 53, 173, 197, 3677] (by norm_num) (by decide +kernel)
  have h₃ : Nat.Prime 11290956913871 :=
    prime_of_returnsAt 13 [2, 5, 17, 66417393611]
      (by simp only [List.forall_mem_cons, h₂]; norm_num) (by decide +kernel)
  have h₄ : Nat.Prime 46076956964474543 :=
    prime_of_returnsAt 5 [2, 23, 18169, 78283, 704251] (by norm_num) (by decide +kernel)
  have h₅ : Nat.Prime 774023187263532362759620327192479577272145303 :=
    prime_of_returnsAt 3 [2, 3, 3, 2411, 34282281433, 11290956913871, 46076956964474543]
      (by simp only [List.forall_mem_cons, h₁, h₃, h₄]; norm_num) (by decide +kernel)
  exact prime_of_returnsAt 11 [2, 2, 2, 3, 3, 3, 5, 774023187263532362759620327192479577272145303]
    (by simp only [List.forall_mem_cons, h₅]; norm_num) (by decide +kernel)

theorem prime_prime : prime.Prime :=
  prime_of_returnsAt 6 [2, 3, 5, 5, 17, 257, 641, 1531, 65537, 490463, 6700417,
      835945042244614951780389953367877943453916927241]
    (by simp only [List.forall_mem_cons, prime_largestFactor]; norm_num) (by decide +kernel)

theorem prime_order : order.Prime := by
  have h₁ : Nat.Prime 187019741 :=
    prime_of_returnsAt 2 [2, 2, 5, 9350987] (by norm_num) (by decide +kernel)
  have h₂ : Nat.Prime 311245691 :=
    prime_of_returnsAt 2 [2, 5, 7, 17, 29, 29, 311] (by norm_num) (by decide +kernel)
  have h₃ : Nat.Prime 622491383 :=
    prime_of_returnsAt 5 [2, 311245691] (by simp only [List.forall_mem_cons, h₂]; norm_num)
      (by decide +kernel)
  have h₄ : Nat.Prime 1002328039319 :=
    prime_of_returnsAt 19 [2, 126241, 3969899] (by norm_num) (by decide +kernel)
  have h₅ : Nat.Prime 208150935158385979 :=
    prime_of_returnsAt 2 [2, 3, 11, 43, 127, 3023, 191039911] (by norm_num) (by decide +kernel)
  have h₆ : Nat.Prime 2624747550333869278416773953 :=
    prime_of_returnsAt 7 [2, 2, 2, 2, 2, 2, 3, 3, 1297, 16879, 208150935158385979]
      (by simp only [List.forall_mem_cons, h₅]; norm_num) (by decide +kernel)
  exact prime_of_returnsAt 7 [2, 2, 2, 2, 3, 71, 131, 373, 3407, 17449, 38189, 187019741, 622491383,
      1002328039319, 2624747550333869278416773953]
    (by simp only [List.forall_mem_cons, h₁, h₃, h₄, h₆]; norm_num) (by decide +kernel)

instance : Fact prime.Prime := ⟨prime_prime⟩

instance : Fact order.Prime := ⟨prime_order⟩

end TicketGrant.P256
