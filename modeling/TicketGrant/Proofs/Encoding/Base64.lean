import TicketGrant.Encoding.Base64

/-!
# Base64 undone

Bytes come back from their digits, in every alphabet in which the digits can be told apart, with or
without padding (`bytes?_digits`). The digits are visible ASCII, so what is written in them may
stand in a header field.
-/
namespace TicketGrant.Base64

namespace Alphabet

/-- The digits of an alphabet can be told apart, from each other and from the padding. -/
structure Legible (a : Alphabet) : Prop where
  value?_digit : ∀ n < 64, a.value? (a.digit n) = some n
  digit_ne : ∀ n < 64, a.digit n ≠ '='
  visible : ∀ n < 64, 0x20 < (a.digit n).toNat ∧ (a.digit n).toNat < 0x7F

/-- What holds of the digits, and of the padding if there is any, holds of all that is written. -/
theorem of_mem_digits {a : Alphabet} {P : Char → Prop} (hdigit : ∀ n < 64, P (a.digit n))
    (hpadding : a.padded = true → P '=') {bytes : Bytes} {c : Char} (hc : c ∈ a.digits bytes) :
    P c := by
  have hfilled {n : Nat} (hc : c ∈ a.padding n) : P c := by
    unfold padding at hc
    split at hc
    · rename_i hpadded
      rw [(List.mem_replicate.mp hc).2]
      exact hpadding hpadded
    · cases hc
  fun_induction digits a bytes with
  | case1 => cases hc
  | case2 x =>
    have hx : x.toNat < 256 := x.toNat_lt
    simp only [List.mem_cons] at hc
    rcases hc with rfl | rfl | hc
    · exact hdigit _ (by omega)
    · exact hdigit _ (by omega)
    · exact hfilled hc
  | case3 x y =>
    have hx : x.toNat < 256 := x.toNat_lt
    have hy : y.toNat < 256 := y.toNat_lt
    simp only [List.mem_cons] at hc
    rcases hc with rfl | rfl | rfl | hc
    · exact hdigit _ (by omega)
    · exact hdigit _ (by omega)
    · exact hdigit _ (by omega)
    · exact hfilled hc
  | case4 x y z rest ih =>
    have hx : x.toNat < 256 := x.toNat_lt
    have hy : y.toNat < 256 := y.toNat_lt
    have hz : z.toNat < 256 := z.toNat_lt
    simp only [List.mem_cons] at hc
    rcases hc with rfl | rfl | rfl | rfl | hc
    · exact hdigit _ (by omega)
    · exact hdigit _ (by omega)
    · exact hdigit _ (by omega)
    · exact hdigit _ (by omega)
    · exact ih hc

/-- With padding every group has four digits. -/
theorem length_digits_of_padded {a : Alphabet} (h : a.padded = true) (bytes : Bytes) :
    (a.digits bytes).length = 4 * ((bytes.length + 2) / 3) := by
  fun_induction digits a bytes with
  | case1 => rfl
  | case2 x => simp [padding, h]
  | case3 x y => simp [padding, h]
  | case4 x y z rest ih =>
    simp only [List.length_cons, ih]
    omega

end Alphabet

theorem legible_standard : standard.Legible := ⟨by decide, by decide, by decide⟩

theorem legible_urlSafe : urlSafe.Legible := ⟨by decide, by decide, by decide⟩

namespace Alphabet.Legible
variable {a : Alphabet} (h : a.Legible)
include h

/-! ### Groups -/

/-- One byte comes back from two digits. -/
theorem pair?_eq (x : UInt8) :
    a.pair? (a.digit (x.toNat / 4)) (a.digit (x.toNat % 4 * 16)) = some [x] := by
  have hx : x.toNat < 256 := x.toNat_lt
  have hbyte : x.toNat / 4 * 4 + x.toNat % 4 * 16 / 16 = x.toNat := by omega
  have hspare : x.toNat % 4 * 16 % 16 = 0 := by omega
  rw [pair?, h.value?_digit _ (by omega), h.value?_digit _ (by omega)]
  simp only [Option.bind_eq_bind, Option.bind_some, hbyte, hspare, if_true, UInt8.ofNat_toNat]

/-- Two bytes come back from three digits. -/
theorem triple?_eq (x y : UInt8) :
    a.triple? (a.digit (x.toNat / 4)) (a.digit (x.toNat % 4 * 16 + y.toNat / 16))
      (a.digit (y.toNat % 16 * 4)) = some [x, y] := by
  have hx : x.toNat < 256 := x.toNat_lt
  have hy : y.toNat < 256 := y.toNat_lt
  have hfirst : x.toNat / 4 * 4 + (x.toNat % 4 * 16 + y.toNat / 16) / 16 = x.toNat := by omega
  have hsecond : (x.toNat % 4 * 16 + y.toNat / 16) % 16 * 16 + y.toNat % 16 * 4 / 4 = y.toNat := by
    omega
  have hspare : y.toNat % 16 * 4 % 4 = 0 := by omega
  rw [triple?, h.value?_digit _ (by omega), h.value?_digit _ (by omega),
    h.value?_digit _ (by omega)]
  simp only [Option.bind_eq_bind, Option.bind_some, hfirst, hsecond, hspare, if_true,
    UInt8.ofNat_toNat]

/-- Three bytes come back from four digits. -/
theorem group?_eq (x y z : UInt8) :
    a.group? (a.digit (x.toNat / 4)) (a.digit (x.toNat % 4 * 16 + y.toNat / 16))
      (a.digit (y.toNat % 16 * 4 + z.toNat / 64)) (a.digit (z.toNat % 64)) = some [x, y, z] := by
  have hx : x.toNat < 256 := x.toNat_lt
  have hy : y.toNat < 256 := y.toNat_lt
  have hz : z.toNat < 256 := z.toNat_lt
  have hfirst : x.toNat / 4 * 4 + (x.toNat % 4 * 16 + y.toNat / 16) / 16 = x.toNat := by omega
  have hsecond : (x.toNat % 4 * 16 + y.toNat / 16) % 16 * 16 +
      (y.toNat % 16 * 4 + z.toNat / 64) / 4 = y.toNat := by
    omega
  have hthird : (y.toNat % 16 * 4 + z.toNat / 64) % 4 * 64 + z.toNat % 64 = z.toNat := by omega
  rw [group?, h.value?_digit _ (by omega), h.value?_digit _ (by omega),
    h.value?_digit _ (by omega), h.value?_digit _ (by omega)]
  simp only [Option.bind_eq_bind, Option.bind_some, hfirst, hsecond, hthird, UInt8.ofNat_toNat]

/-! ### Sequences -/

/-- Bytes come back from their digits. -/
theorem bytes?_digits (bytes : Bytes) : a.bytes? (a.digits bytes) = some bytes := by
  fun_induction digits a bytes with
  | case1 => rfl
  | case2 x =>
    cases hpadded : a.padded with
    | false => simp [bytes?, padding, hpadded, h.pair?_eq]
    | true => simp [bytes?, padding, hpadded, h.pair?_eq]
  | case3 x y =>
    have hy : y.toNat < 256 := y.toNat_lt
    cases hpadded : a.padded with
    | false => simp [bytes?, padding, hpadded, h.triple?_eq]
    | true =>
      have hdigit := h.digit_ne (y.toNat % 16 * 4) (by omega)
      simp [bytes?, padding, hpadded, h.triple?_eq, hdigit]
  | case4 x y z rest ih =>
    have hdigit := h.digit_ne (z.toNat % 64) (by omega)
    simp [bytes?, hdigit, h.group?_eq, ih]

/-- The written form of bytes is read as these bytes. -/
theorem decode?_encode (bytes : Bytes) : a.decode? (a.encode bytes) = some bytes := by
  rw [decode?, encode, String.toList_ofList, h.bytes?_digits]

/-! ### What is written -/

/-- Digits and padding are visible ASCII. -/
theorem visible_of_mem_digits {bytes : Bytes} {c : Char} (hc : c ∈ a.digits bytes) :
    0x20 < c.toNat ∧ c.toNat < 0x7F :=
  of_mem_digits (P := fun c => 0x20 < c.toNat ∧ c.toNat < 0x7F) h.visible
    (fun _ => by decide) hc

end Alphabet.Legible

/-- The last group is filled up, and every bit that no byte accounts for is zero. -/
example : standard.encode [0x66, 0x6F, 0x6F, 0x62] = "Zm9vYg==" := by decide

end TicketGrant.Base64
