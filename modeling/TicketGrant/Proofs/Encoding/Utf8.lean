import TicketGrant.Text.Utf8
import Mathlib.Tactic.SplitIfs

/-!
# UTF-8 undone

What is written can be read: the machine turns the bytes of each character back into that character
and is then between characters again, so the bytes of a text hold no broken part and come back as
the text. Texts of ASCII characters are their own bytes.
-/
namespace TicketGrant.Utf8

/-! ### One byte -/

/-- The first byte of a character, as a number. -/
theorem first_ofNat {n : Nat} (hn : n < 256) (out : List (Option Char)) :
    first out (UInt8.ofNat n) =
      if n < 0x80 then ⟨some (Char.ofNat n) :: out, .start⟩
      else if n < 0xC2 then ⟨none :: out, .start⟩
      else if n < 0xE0 then ⟨out, .inside 1 0x80 0xBF (n % 32)⟩
      else if n = 0xE0 then ⟨out, .inside 2 0xA0 0xBF 0⟩
      else if n = 0xED then ⟨out, .inside 2 0x80 0x9F 13⟩
      else if n < 0xF0 then ⟨out, .inside 2 0x80 0xBF (n % 16)⟩
      else if n = 0xF0 then ⟨out, .inside 3 0x90 0xBF 0⟩
      else if n < 0xF4 then ⟨out, .inside 3 0x80 0xBF (n % 8)⟩
      else if n = 0xF4 then ⟨out, .inside 3 0x80 0x8F 4⟩
      else ⟨none :: out, .start⟩ := by
  have hbyte : (UInt8.ofNat n).toNat = n := by rw [UInt8.toNat_ofNat', Nat.mod_eq_of_lt hn]
  simp only [first, UInt8.lt_iff_toNat_lt, ← UInt8.toNat_inj, hbyte, UInt8.reduceToNat]

theorem step_start (out : List (Option Char)) (b : UInt8) : step ⟨out, .start⟩ b = first out b :=
  rfl

section Inside
variable {out : List (Option Char)} {owed bits n : Nat} {low high : UInt8}

/-- A byte in its range, when more are owed behind it. -/
theorem step_inside (hn : n < 64) (hlow : low.toNat ≤ n + 128) (hhigh : n + 128 ≤ high.toNat)
    (howed : 1 < owed) :
    step ⟨out, .inside owed low high bits⟩ (UInt8.ofNat (n + 128)) =
      ⟨out, .inside (owed - 1) 0x80 0xBF (bits * 64 + n)⟩ := by
  have hbyte : (UInt8.ofNat (n + 128)).toNat = n + 128 := by
    rw [UInt8.toNat_ofNat', Nat.mod_eq_of_lt (by omega)]
  have hbits : (n + 128) % 64 = n := by omega
  simp only [step, UInt8.le_iff_toNat_le, hbyte, hbits]
  rw [if_pos ⟨hlow, hhigh⟩, if_neg (by omega)]

/-- The last byte of a character. -/
theorem step_last (hn : n < 64) :
    step ⟨out, .inside 1 0x80 0xBF bits⟩ (UInt8.ofNat (n + 128)) =
      ⟨some (Char.ofNat (bits * 64 + n)) :: out, .start⟩ := by
  have hbyte : (UInt8.ofNat (n + 128)).toNat = n + 128 := by
    rw [UInt8.toNat_ofNat', Nat.mod_eq_of_lt (by omega)]
  have hbits : (n + 128) % 64 = n := by omega
  simp only [step, UInt8.le_iff_toNat_le, hbyte, hbits, UInt8.reduceToNat]
  rw [if_pos (by omega), if_pos (Nat.le_refl 1)]

/-- A byte of the full range, when more are owed behind it. -/
theorem step_more (hn : n < 64) (howed : 1 < owed) :
    step ⟨out, .inside owed 0x80 0xBF bits⟩ (UInt8.ofNat (n + 128)) =
      ⟨out, .inside (owed - 1) 0x80 0xBF (bits * 64 + n)⟩ :=
  step_inside hn (by simp only [UInt8.reduceToNat]; omega) (by simp only [UInt8.reduceToNat]; omega)
    howed

end Inside

/-! ### One character -/

/-- The state after the first byte of three: the range of the second shuts out what needs fewer
bytes, and the numbers that are no characters. -/
theorem first_of_three {v : Nat} (hlong : 0x7ff < v) (hshort : v ≤ 0xffff)
    (hvalid : v < 0xd800 ∨ 0xdfff < v) (out : List (Option Char)) :
    ∃ low high : UInt8, first out (UInt8.ofNat (v / 4096 % 16 + 224)) =
        ⟨out, .inside 2 low high (v / 4096)⟩ ∧
      low.toNat ≤ v / 64 % 64 + 128 ∧ v / 64 % 64 + 128 ≤ high.toNat := by
  rw [first_ofNat (by omega)]
  have hsmall : v / 4096 % 16 = v / 4096 := Nat.mod_eq_of_lt (by omega)
  rw [if_neg (by omega), if_neg (by omega), if_neg (by omega)]
  split_ifs with h₁ h₂ h₃
  · have hzero : v / 4096 = 0 := by omega
    exact ⟨0xA0, 0xBF, by rw [hzero], by simp only [UInt8.reduceToNat]; omega,
      by simp only [UInt8.reduceToNat]; omega⟩
  · have hthirteen : v / 4096 = 13 := by omega
    exact ⟨0x80, 0x9F, by rw [hthirteen], by simp only [UInt8.reduceToNat]; omega,
      by simp only [UInt8.reduceToNat]; omega⟩
  · have hbits : (v / 4096 % 16 + 224) % 16 = v / 4096 := by omega
    exact ⟨0x80, 0xBF, by rw [hbits], by simp only [UInt8.reduceToNat]; omega,
      by simp only [UInt8.reduceToNat]; omega⟩
  all_goals omega

/-- The state after the first byte of four: the range of the second shuts out what needs fewer
bytes, and what is above the last character. -/
theorem first_of_four {v : Nat} (hlong : 0xffff < v) (hvalid : v < 0x110000)
    (out : List (Option Char)) :
    ∃ low high : UInt8, first out (UInt8.ofNat (v / 262144 % 8 + 240)) =
        ⟨out, .inside 3 low high (v / 262144)⟩ ∧
      low.toNat ≤ v / 4096 % 64 + 128 ∧ v / 4096 % 64 + 128 ≤ high.toNat := by
  rw [first_ofNat (by omega)]
  have hsmall : v / 262144 % 8 = v / 262144 := Nat.mod_eq_of_lt (by omega)
  rw [if_neg (by omega), if_neg (by omega), if_neg (by omega), if_neg (by omega),
    if_neg (by omega), if_neg (by omega)]
  split_ifs with h₁ h₂ h₃
  · have hzero : v / 262144 = 0 := by omega
    exact ⟨0x90, 0xBF, by rw [hzero], by simp only [UInt8.reduceToNat]; omega,
      by simp only [UInt8.reduceToNat]; omega⟩
  · have hbits : (v / 262144 % 8 + 240) % 8 = v / 262144 := by omega
    exact ⟨0x80, 0xBF, by rw [hbits], by simp only [UInt8.reduceToNat]; omega,
      by simp only [UInt8.reduceToNat]; omega⟩
  · have hfour : v / 262144 = 4 := by omega
    exact ⟨0x80, 0x8F, by rw [hfour], by simp only [UInt8.reduceToNat]; omega,
      by simp only [UInt8.reduceToNat]; omega⟩
  · omega

/-- The bytes of a character are read as that character, and nothing is owed behind them. -/
theorem foldl_step_encodeChar (c : Char) (out : List (Option Char)) :
    (String.utf8EncodeChar c).foldl step ⟨out, .start⟩ = ⟨some c :: out, .start⟩ := by
  have hvalid : c.toNat < 0xd800 ∨ 0xdfff < c.toNat ∧ c.toNat < 0x110000 := c.valid
  have hc : Char.ofNat c.toNat = c := Char.ofNat_toNat c
  simp only [String.utf8EncodeChar, Char.toNat_val]
  generalize c.toNat = v at hvalid hc ⊢
  split_ifs with hone htwo hthree
  · simp only [List.foldl_cons, List.foldl_nil]
    rw [step_start, first_ofNat (by omega), if_pos (by omega), hc]
  · have hbits : (v / 64 % 32 + 192) % 32 * 64 + v % 64 = v := by omega
    simp only [List.foldl_cons, List.foldl_nil]
    rw [step_start, first_ofNat (by omega), if_neg (by omega), if_neg (by omega),
      if_pos (by omega), step_last (by omega), hbits, hc]
  · obtain ⟨low, high, hfirst, hlow, hhigh⟩ := first_of_three (by omega) hthree (by omega) out
    have hbits : (v / 4096 * 64 + v / 64 % 64) * 64 + v % 64 = v := by omega
    simp only [List.foldl_cons, List.foldl_nil]
    rw [step_start, hfirst, step_inside (by omega) hlow hhigh (by decide), step_last (by omega),
      hbits, hc]
  · obtain ⟨low, high, hfirst, hlow, hhigh⟩ :=
      first_of_four (Nat.lt_of_not_le hthree) (by omega) out
    have hbits : ((v / 262144 * 64 + v / 4096 % 64) * 64 + v / 64 % 64) * 64 + v % 64 = v := by
      omega
    simp only [List.foldl_cons, List.foldl_nil]
    rw [step_start, hfirst, step_inside (by omega) hlow hhigh (by decide),
      step_more (by omega) (by decide), step_last (by omega), hbits, hc]

/-! ### Texts -/

theorem foldl_step_encode (text : List Char) (out : List (Option Char)) :
    (text.flatMap String.utf8EncodeChar).foldl step ⟨out, .start⟩ =
      ⟨(text.map some).reverse ++ out, .start⟩ := by
  induction text generalizing out with
  | nil => rfl
  | cons c text ih =>
    rw [List.flatMap_cons, List.foldl_append, foldl_step_encodeChar, ih]
    simp

/-- The bytes of a text are read as its characters, and no part is broken. -/
theorem parts_encode (text : String) : parts (encode text) = text.toList.map some := by
  simp [parts, encode, foldl_step_encode]

/-- A text comes back from its bytes. -/
@[simp] theorem decodeLossy_encode (text : String) : decodeLossy (encode text) = text := by
  simp [decodeLossy, parts_encode, Function.comp_def]

/-- The bytes of a text are taken for a text. -/
@[simp] theorem decode?_encode (text : String) : decode? (encode text) = some text := by
  simp [decode?, parts_encode, List.filterMap_map]

/-- Two texts with the same bytes are the same. -/
theorem encode_injective : Function.Injective encode :=
  Function.LeftInverse.injective decodeLossy_encode

/-! ### Order -/

/-- The bytes of characters are in the order of the characters, whatever follows them. -/
theorem encodeChar_append_lt {c d : Char} (h : c < d) (x y : Bytes) :
    String.utf8EncodeChar c ++ x < String.utf8EncodeChar d ++ y := by
  have hlt : c.toNat < d.toNat := h
  have hmax : d.toNat < 0x110000 := by
    rcases d.valid with hlow | ⟨-, hhigh⟩
    · exact Nat.lt_trans hlow (by decide)
    · exact hhigh
  have htwo (k : Nat) : (k % 32 + 192) % 256 = k % 32 + 192 := by omega
  have hthree (k : Nat) : (k % 16 + 224) % 256 = k % 16 + 224 := by omega
  have hfour (k : Nat) : (k % 8 + 240) % 256 = k % 8 + 240 := by omega
  have hlater (k : Nat) : (k % 64 + 128) % 256 = k % 64 + 128 := by omega
  -- each byte holds six more bits
  have hpage (k : Nat) : k / 4096 = k / 64 / 64 := by omega
  have hplane (k : Nat) : k / 262144 = k / 64 / 64 / 64 := by omega
  simp only [String.utf8EncodeChar, Char.toNat_val]
  generalize c.toNat = n at hlt ⊢
  generalize d.toNat = m at hlt hmax ⊢
  split_ifs
  all_goals
    simp only [List.cons_append, List.nil_append, List.cons_lt_cons_iff, UInt8.lt_iff_toNat_lt,
      ← UInt8.toNat_inj, UInt8.toNat_ofNat', Nat.reducePow, htwo, hthree, hfour, hlater, hpage,
      hplane]
    omega

/-- Texts and their bytes are in the same order. -/
theorem encode_lt {a b : String} (h : a < b) : encode a < encode b := by
  have hchars : ∀ cs ds : List Char, cs < ds →
      cs.flatMap String.utf8EncodeChar < ds.flatMap String.utf8EncodeChar := by
    intro cs
    induction cs with
    | nil =>
      intro ds hds
      cases ds with
      | nil => exact absurd hds (List.not_lt_nil [])
      | cons d ds =>
        obtain ⟨first, rest, hd⟩ := List.exists_cons_of_ne_nil
          (List.ne_nil_of_length_pos (String.length_utf8EncodeChar d ▸ d.utf8Size_pos))
        rw [List.flatMap_cons, hd]
        exact List.nil_lt_cons _ _
    | cons c cs ih =>
      intro ds hds
      cases ds with
      | nil => exact absurd hds (List.not_lt_nil _)
      | cons d ds =>
        rw [List.flatMap_cons, List.flatMap_cons]
        rcases List.cons_lt_cons_iff.mp hds with hlt | ⟨rfl, hlt⟩
        · exact encodeChar_append_lt hlt _ _
        · exact List.append_left_lt (ih ds hlt)
  exact hchars a.toList b.toList (String.lt_iff.mp h)

/-! ### ASCII -/

/-- A byte below `0x80` as a character. -/
theorem toNat_charOfNat {n : Nat} (h : n < 0x80) : (Char.ofNat n).toNat = n := by
  rw [Char.ofNat, dif_pos (.inl (by omega))]
  rfl

/-- A byte for each character of an ASCII text. -/
def asciiBytes (text : List Char) : Bytes := text.map fun c => UInt8.ofNat c.toNat

@[simp] theorem asciiBytes_append (a b : List Char) :
    asciiBytes (a ++ b) = asciiBytes a ++ asciiBytes b := List.map_append

@[simp] theorem asciiBytes_cons (c : Char) (text : List Char) :
    asciiBytes (c :: text) = UInt8.ofNat c.toNat :: asciiBytes text := rfl

/-- An ASCII text is its own bytes. -/
theorem encode_ofList_of_ascii {text : List Char} (h : ∀ c ∈ text, c.toNat < 0x80) :
    encode (String.ofList text) = asciiBytes text := by
  rw [encode, String.toList_ofList]
  induction text with
  | nil => rfl
  | cons c text ih =>
    obtain ⟨hc, htext⟩ := List.forall_mem_cons.mp h
    have hbyte : String.utf8EncodeChar c = [UInt8.ofNat c.toNat] := by
      simp only [String.utf8EncodeChar, Char.toNat_val]
      rw [if_pos (by omega)]
    rw [List.flatMap_cons, hbyte, ih htext, asciiBytes_cons]
    rfl

end TicketGrant.Utf8
