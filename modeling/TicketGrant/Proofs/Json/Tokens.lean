import Mathlib.Data.List.Induction
import TicketGrant.Json.Reader

/-!
# Tokens

Two kinds of tokens are read byte by byte: what stands between the quotation marks of a text, and
numerals. Here are their grammars, without a reader: `IsText` and `IsNumeral`. Each reader accepts
exactly what its grammar allows (`exists_after?_iff`, `exists_ofBytes?_iff`); what it has read at any
point is a beginning of the grammar, told by the part that it waits for.
-/
namespace TicketGrant.Json

/-- Steps that lead on over two sequences. -/
theorem foldlM_append_of_eq_some {σ : Type} {next? : σ → UInt8 → Option σ} {s t : σ} {xs : Bytes}
    (h : xs.foldlM next? s = some t) (ys : Bytes) :
    (xs ++ ys).foldlM next? s = ys.foldlM next? t := by
  rw [List.foldlM_append, h]
  rfl

/-- Steps that lead on over a sequence and one more byte. -/
theorem foldlM_concat_eq_some_iff {σ : Type} {next? : σ → UInt8 → Option σ} {s u : σ} {xs : Bytes}
    {b : UInt8} : (xs ++ [b]).foldlM next? s = some u ↔
      ∃ t, xs.foldlM next? s = some t ∧ next? t b = some u := by
  rw [List.foldlM_append, Option.bind_eq_bind, Option.bind_eq_some_iff]
  simp

/-! ### Texts -/

/-- A byte is a hexadecimal digit. -/
def isHex (b : UInt8) : Bool :=
  (0x30 ≤ b && b ≤ 0x39) || (0x41 ≤ b && b ≤ 0x46) || (0x61 ≤ b && b ≤ 0x66)

/-- The letters that may follow a backslash, but for that of a numbered escape. -/
def escapeLetters : Bytes := [0x22, 0x5C, 0x2F, 0x62, 0x66, 0x6E, 0x72, 0x74]

/-- A piece of a text: a byte that stands for itself, or an escape. -/
inductive IsPiece : Bytes → Prop
  | plain {b : UInt8} : ¬ b < 0x20 → b ≠ 0x22 → b ≠ 0x5C → IsPiece [b]
  | escape {b : UInt8} : b ∈ escapeLetters → IsPiece [0x5C, b]
  | unit {digits : Bytes} : digits.length = 4 → (∀ b ∈ digits, isHex b = true) →
      IsPiece (0x5C :: 0x75 :: digits)

/-- What may stand between two quotation marks: pieces, one after the other. -/
def IsText (bytes : Bytes) : Prop :=
  ∃ pieces : List Bytes, (∀ piece ∈ pieces, IsPiece piece) ∧ bytes = pieces.flatten

theorem isText_nil : IsText [] := ⟨[], by simp, rfl⟩

theorem IsText.append {bytes piece : Bytes} (h : IsText bytes) (hpiece : IsPiece piece) :
    IsText (bytes ++ piece) := by
  obtain ⟨pieces, hpieces, rfl⟩ := h
  refine ⟨pieces ++ [piece], fun p hp => ?_, by simp⟩
  rcases List.mem_append.mp hp with hp | hp
  · exact hpieces p hp
  · rwa [List.mem_singleton.mp hp]

namespace TextReading

/-- The reading behind a byte that belongs to the text. -/
def next? (t : TextReading) (b : UInt8) : Option TextReading :=
  match t.step b with
  | .more next => some next
  | _ => none

/-- The reading behind some bytes, if all of them belong to the text. -/
def after? (t : TextReading) (bytes : Bytes) : Option TextReading := bytes.foldlM next? t

variable {t u : TextReading} {bytes : Bytes} {b : UInt8}

theorem next?_eq_some_iff : t.next? b = some u ↔ t.step b = .more u := by
  rw [next?]
  split <;> simp_all

@[simp] theorem after?_nil (t : TextReading) : t.after? [] = some t := rfl

theorem after?_cons (h : t.step b = .more u) (rest : Bytes) :
    t.after? (b :: rest) = u.after? rest := by
  rw [after?, List.foldlM_cons, next?_eq_some_iff.mpr h]
  rfl

theorem after?_concat_eq_some_iff :
    t.after? (bytes ++ [b]) = some u ↔ ∃ last, t.after? bytes = some last ∧ last.step b = .more u := by
  simp only [after?, foldlM_concat_eq_some_iff, next?_eq_some_iff]

theorem isSome_hexValue? (b : UInt8) : (hexValue? b).isSome = isHex b := by
  unfold hexValue? isHex
  split
  · simp_all
  split
  · simp_all
  · split <;> simp_all

theorem isSome_escaped?_iff : (escaped? b).isSome = true ↔ b ∈ escapeLetters := by
  unfold escaped?
  split <;> simp_all [escapeLetters]

theorem after?_append {piece : Bytes} (h : t.after? piece = some u) (rest : Bytes) :
    t.after? (piece ++ rest) = u.after? rest :=
  foldlM_append_of_eq_some h rest

@[simp] theorem pushUnit_part (t : TextReading) (unit : Nat) : (t.pushUnit unit).part = .plain := by
  unfold pushUnit
  split
  · split <;> rfl
  · simp only
    split <;> rfl

/-- A digit of a numbered escape; the last one ends it. -/
theorem step_unit {owed value digit : Nat} (ht : t.part = .unit owed value)
    (hb : hexValue? b = some digit) :
    t.step b = .more (if owed ≤ 1 then t.pushUnit (value * 16 + digit)
      else { t with part := .unit (owed - 1) (value * 16 + digit) }) := by
  simp only [step, ht, hb]
  split <;> rfl

/-- Digits that are owed are read, and the last one ends the escape. -/
theorem exists_after?_digits {digits : Bytes} (hdigits : ∀ b ∈ digits, isHex b = true)
    (hne : digits ≠ []) (value : Nat) (ht : t.part = .unit digits.length value) :
    ∃ u, t.after? digits = some u ∧ u.part = .plain := by
  induction digits generalizing t value with
  | nil => exact absurd rfl hne
  | cons b digits ih =>
    obtain ⟨hb, hdigits⟩ := List.forall_mem_cons.mp hdigits
    rw [← isSome_hexValue?] at hb
    obtain ⟨digit, hdigit⟩ := Option.isSome_iff_exists.mp hb
    have hstep := step_unit ht hdigit
    rw [after?_cons hstep]
    cases digits with
    | nil => exact ⟨_, rfl, pushUnit_part _ _⟩
    | cons c digits => exact ih hdigits (List.cons_ne_nil _ _) (value * 16 + digit) (by simp)

/-- A piece is read from one character to the next. -/
theorem exists_after?_piece (ht : t.part = .plain) {piece : Bytes} (h : IsPiece piece) :
    ∃ u, t.after? piece = some u ∧ u.part = .plain := by
  cases h with
  | @plain b hlow hquote hslash =>
    have hstep : t.step b = .more (t.push b) := by simp [step, ht, hquote, hslash, hlow]
    exact ⟨t.push b, after?_cons hstep [], rfl⟩
  | @escape b hb =>
    obtain ⟨c, hc⟩ := Option.isSome_iff_exists.mp (isSome_escaped?_iff.mpr hb)
    have hletter : b ≠ 0x75 := by
      rintro rfl
      exact absurd hb (by decide)
    have hslash : t.step 0x5C = .more { t with part := .escape } := by simp [step, ht]
    have hstep : ({ t with part := .escape } : TextReading).step b =
        .more (({ t with part := .escape } : TextReading).push c) := by
      simp [step, hletter, hc]
    exact ⟨_, by rw [after?_cons hslash, after?_cons hstep]; rfl, rfl⟩
  | @unit digits hlength hdigits =>
    have hslash : t.step 0x5C = .more { t with part := .escape } := by simp [step, ht]
    have hunit : ({ t with part := .escape } : TextReading).step 0x75 =
        .more { t with part := .unit 4 0 } := by simp [step]
    rw [after?_cons hslash, after?_cons hunit]
    refine exists_after?_digits hdigits (fun hnil => ?_) 0 (by rw [hlength])
    rw [hnil] at hlength
    exact absurd hlength (by decide)

theorem exists_after?_of_isText (h : IsText bytes) :
    ∃ t, start.after? bytes = some t ∧ t.part = .plain := by
  obtain ⟨pieces, hpieces, rfl⟩ := h
  have hfrom (t : TextReading) (ht : t.part = .plain) :
      ∃ u, t.after? pieces.flatten = some u ∧ u.part = .plain := by
    induction pieces generalizing t with
    | nil => exact ⟨t, rfl, ht⟩
    | cons piece pieces ih =>
      obtain ⟨hpiece, hpieces⟩ := List.forall_mem_cons.mp hpieces
      obtain ⟨u, hu, hplain⟩ := exists_after?_piece ht hpiece
      rw [List.flatten_cons, after?_append hu]
      exact ih hpieces u hplain
  exact hfrom start rfl

end TextReading

/-- What has been read of a text when the reading waits for a part. -/
inductive TextPart.Holds : TextPart → Bytes → Prop
  | plain {bytes} : IsText bytes → Holds .plain bytes
  | escape {body} : IsText body → Holds .escape (body ++ [0x5C])
  | unit {body digits owed value} : IsText body → (∀ b ∈ digits, isHex b = true) →
      digits.length + owed = 4 → 1 ≤ owed → Holds (.unit owed value) (body ++ 0x5C :: 0x75 :: digits)

namespace TextReading

variable {t u : TextReading} {bytes : Bytes} {b : UInt8}

theorem holds_of_step (h : t.part.Holds bytes) (hstep : t.step b = .more u) :
    u.part.Holds (bytes ++ [b]) := by
  rw [step] at hstep
  generalize hpart : t.part = part at h hstep
  cases h with
  | plain htext =>
    simp only at hstep
    split at hstep
    · cases hstep
    rename_i hquote
    split at hstep
    · rename_i hslash
      cases hstep
      rw [hslash]
      exact .escape htext
    rename_i hslash
    split at hstep
    · cases hstep
    rename_i hlow
    cases hstep
    exact .plain (htext.append (.plain hlow hquote hslash))
  | @escape body htext =>
    rw [List.append_assoc]
    simp only at hstep
    split at hstep
    · rename_i hunit
      cases hstep
      rw [hunit]
      exact @TextPart.Holds.unit body [] 4 0 htext (by simp) rfl (by decide)
    · split at hstep
      · rename_i c hc
        cases hstep
        have hb : b ∈ escapeLetters := isSome_escaped?_iff.mp (by rw [hc]; rfl)
        exact .plain (htext.append (.escape hb))
      · cases hstep
  | @unit body digits owed value htext hdigits hlength howed =>
    simp only at hstep
    split at hstep
    · cases hstep
    rename_i digit hdigit
    have hb : isHex b = true := by rw [← isSome_hexValue?, hdigit]; rfl
    have hmore : ∀ c ∈ digits ++ [b], isHex c = true := by
      intro c hc
      rcases List.mem_append.mp hc with hc | hc
      · exact hdigits c hc
      · rwa [List.mem_singleton.mp hc]
    have hbytes : body ++ 0x5C :: 0x75 :: digits ++ [b] = body ++ 0x5C :: 0x75 :: (digits ++ [b]) :=
      by simp
    rw [hbytes]
    split at hstep
    · cases hstep
      rw [pushUnit_part]
      exact .plain (htext.append (.unit (by simp; omega) hmore))
    · cases hstep
      exact .unit htext hmore (by simp; omega) (by omega)

theorem holds_of_after? (h : start.after? bytes = some t) : t.part.Holds bytes := by
  induction bytes using List.reverseRecOn generalizing t with
  | nil =>
    cases h
    exact .plain isText_nil
  | append_singleton bytes b ih =>
    obtain ⟨last, hlast, hstep⟩ := after?_concat_eq_some_iff.mp h
    exact holds_of_step (ih hlast) hstep

/-- Between two characters stands what the grammar allows, and nothing else. -/
theorem exists_after?_iff :
    (∃ t, start.after? bytes = some t ∧ t.part = .plain) ↔ IsText bytes := by
  refine ⟨fun ⟨t, ht, hplain⟩ => ?_, exists_after?_of_isText⟩
  have hholds := holds_of_after? ht
  rw [hplain] at hholds
  cases hholds with
  | plain htext => exact htext

/-- Only a quotation mark between two characters ends a text. -/
theorem step_eq_ended_iff {content : Option String} :
    t.step b = .ended content ↔ t.part = .plain ∧ b = 0x22 ∧ content = t.content := by
  rw [step]
  cases hpart : t.part with
  | plain =>
    simp only [true_and]
    split
    · rename_i hquote
      simp [hquote, eq_comm]
    · rename_i hquote
      split
      · simp [hquote]
      · split <;> simp [hquote]
  | escape =>
    simp only
    split
    · simp
    · split <;> simp
  | unit owed value =>
    simp only
    split
    · simp
    · split <;> simp

/-- What has been read is ended by a quotation mark if it is a text of the grammar, and by nothing
else. -/
theorem step_eq_ended_iff_isText (hread : start.after? bytes = some t) {content : Option String} :
    t.step b = .ended content ↔ IsText bytes ∧ b = 0x22 ∧ content = t.content := by
  have hpart : t.part = .plain ↔ IsText bytes := by
    rw [← exists_after?_iff]
    simp [hread]
  rw [step_eq_ended_iff, hpart]

/-- A quotation mark behind a text of the grammar ends it. -/
theorem step_quote (h : IsText bytes) (hread : start.after? bytes = some t) :
    t.step 0x22 = .ended t.content :=
  (step_eq_ended_iff_isText hread).mpr ⟨h, rfl, rfl⟩

end TextReading

/-! ### Numerals -/

/-- One digit or more. -/
def IsDigits (bytes : Bytes) : Prop := bytes ≠ [] ∧ ∀ b ∈ bytes, Numeral.isDigit b = true

/-- The digits before a point: zero, or any digits that do not start with zero. -/
inductive IsMagnitude : Bytes → Prop
  | zero : IsMagnitude [0x30]
  | digits {b : UInt8} {rest : Bytes} : Numeral.isDigit b = true → b ≠ 0x30 →
      (∀ d ∈ rest, Numeral.isDigit d = true) → IsMagnitude (b :: rest)

/-- The digits before a point with their sign. -/
inductive IsSigned : Bytes → Prop
  | plain {bytes : Bytes} : IsMagnitude bytes → IsSigned bytes
  | minus {bytes : Bytes} : IsMagnitude bytes → IsSigned (0x2D :: bytes)

/-- A point and the digits behind it, if there is one. -/
inductive IsFraction : Bytes → Prop
  | absent : IsFraction []
  | point {digits : Bytes} : IsDigits digits → IsFraction (0x2E :: digits)

/-- The mark of an exponent. -/
def IsMark (b : UInt8) : Prop := b = 0x65 ∨ b = 0x45

/-- An exponent with its mark and perhaps a sign, if there is one. -/
inductive IsExponent : Bytes → Prop
  | absent : IsExponent []
  | marked {mark : UInt8} {digits : Bytes} : IsMark mark → IsDigits digits →
      IsExponent (mark :: digits)
  | signed {mark sign : UInt8} {digits : Bytes} : IsMark mark → sign = 0x2B ∨ sign = 0x2D →
      IsDigits digits → IsExponent (mark :: sign :: digits)

/-- A numeral of the grammar. -/
inductive IsNumeral : Bytes → Prop
  | mk {integer fraction exponent : Bytes} : IsSigned integer → IsFraction fraction →
      IsExponent exponent → IsNumeral (integer ++ (fraction ++ exponent))

theorem isDigits_singleton {b : UInt8} (h : Numeral.isDigit b = true) : IsDigits [b] :=
  ⟨List.cons_ne_nil _ _, by simpa using h⟩

theorem IsDigits.append {digits more : Bytes} (h : IsDigits digits)
    (hmore : ∀ b ∈ more, Numeral.isDigit b = true) : IsDigits (digits ++ more) := by
  refine ⟨by simp [h.1], fun d hd => ?_⟩
  rcases List.mem_append.mp hd with hd | hd
  · exact h.2 d hd
  · exact hmore d hd

namespace Numeral

/-- The numeral behind a byte that belongs to it. -/
def next? (n : Numeral) (b : UInt8) : Option Numeral :=
  match n.step b with
  | .more next => some next
  | _ => none

/-- The numeral behind some bytes, if all of them belong to it. -/
def after? (n : Numeral) (bytes : Bytes) : Option Numeral := bytes.foldlM next? n

theorem next?_eq_some_iff {n m : Numeral} {b : UInt8} : n.next? b = some m ↔ n.step b = .more m := by
  rw [next?]
  split <;> simp_all

theorem after?_cons {n m : Numeral} {b : UInt8} (h : n.step b = .more m) (rest : Bytes) :
    n.after? (b :: rest) = m.after? rest := by
  rw [after?, List.foldlM_cons, next?_eq_some_iff.mpr h]
  rfl

/-- Whether a byte can belong to a numeral behind its first one. -/
def isPart (b : UInt8) : Bool := isDigit b || b == 0x2E || b == 0x65 || b == 0x45

/-- A numeral of digits alone, without a leading zero, of which nothing is missing. -/
def IsInteger (n : Numeral) : Prop := n.part = .zero ∨ n.part = .digits

theorem IsInteger.isWhole {n : Numeral} (h : n.IsInteger) : n.isWhole = true := by
  rcases h with h | h
  · rw [Numeral.isWhole, h]
  · rw [Numeral.isWhole, h]

/-- A whole numeral is ended by any byte that cannot belong to a numeral. -/
theorem step_of_isWhole {n : Numeral} (h : n.isWhole = true) {b : UInt8} (hb : isPart b = false) :
    n.step b = .ended := by
  simp only [isPart, Bool.or_eq_false_iff, beq_eq_false_iff_ne] at hb
  obtain ⟨⟨⟨hdigit, hpoint⟩, hmark⟩, hmark'⟩ := hb
  have hafter : n.afterInteger b = .ended := by
    rw [afterInteger, if_neg hpoint, if_neg (by simp [hmark, hmark'])]
  rw [isWhole] at h
  cases hpart : n.part with
  | zero | digits | fraction | exponent => simp [step, hpart, hdigit, hafter, hmark, hmark']
  | sign | point | mark | markSign => simp [hpart] at h

variable {n m : Numeral} {bytes : Bytes} {b : UInt8}

/-- The numeral behind some bytes, if they begin one. -/
def ofBytes? : Bytes → Option Numeral
  | [] => none
  | b :: rest => (start? b).bind (·.after? rest)

theorem ofBytes?_append (h : ofBytes? bytes = some n) (rest : Bytes) :
    ofBytes? (bytes ++ rest) = n.after? rest := by
  cases bytes with
  | nil => cases h
  | cons b bytes =>
    rw [ofBytes?, Option.bind_eq_some_iff] at h
    obtain ⟨first, hfirst, hn⟩ := h
    rw [List.cons_append, ofBytes?, hfirst, Option.bind_some]
    exact foldlM_append_of_eq_some hn rest

theorem ofBytes?_concat_eq_some_iff (hne : bytes ≠ []) :
    ofBytes? (bytes ++ [b]) = some m ↔ ∃ last, ofBytes? bytes = some last ∧ last.step b = .more m := by
  cases bytes with
  | nil => exact absurd rfl hne
  | cons c bytes =>
    cases hstart : start? c with
    | none => simp [ofBytes?, hstart]
    | some first =>
      simp only [List.cons_append, ofBytes?, hstart, Option.bind_some, after?,
        foldlM_concat_eq_some_iff, next?_eq_some_iff]

/-- In a part that digits do not change, digits are read. -/
theorem exists_after?_digits {part : NumeralPart}
    (hpart : ∀ (n : Numeral) (b : UInt8), n.part = part → isDigit b = true →
      ∃ m, n.step b = .more m ∧ m.part = part)
    (hn : n.part = part) (hbytes : ∀ b ∈ bytes, isDigit b = true) :
    ∃ m, n.after? bytes = some m ∧ m.part = part := by
  induction bytes generalizing n with
  | nil => exact ⟨n, rfl, hn⟩
  | cons b bytes ih =>
    obtain ⟨hb, hbytes⟩ := List.forall_mem_cons.mp hbytes
    obtain ⟨m, hstep, hm⟩ := hpart n b hn hb
    rw [after?_cons hstep]
    exact ih hm hbytes

/-- Digits are read behind a first one that changes the part. -/
theorem exists_after?_isDigits {part : NumeralPart}
    (hpart : ∀ (n : Numeral) (b : UInt8), n.part = part → isDigit b = true →
      ∃ m, n.step b = .more m ∧ m.part = part)
    (hfirst : ∀ b, isDigit b = true → ∃ m, n.step b = .more m ∧ m.part = part)
    (h : IsDigits bytes) : ∃ m, n.after? bytes = some m ∧ m.part = part := by
  obtain ⟨hne, hdigits⟩ := h
  cases bytes with
  | nil => exact absurd rfl hne
  | cons b rest =>
    obtain ⟨hb, hrest⟩ := List.forall_mem_cons.mp hdigits
    obtain ⟨m, hstep, hm⟩ := hfirst b hb
    rw [after?_cons hstep]
    exact exists_after?_digits hpart hm hrest

theorem step_of_digits (hn : n.part = .digits) (hb : isDigit b = true) :
    ∃ m, n.step b = .more m ∧ m.part = .digits := by
  simp [step, hn, hb]

theorem step_of_fraction (hn : n.part = .fraction) (hb : isDigit b = true) :
    ∃ m, n.step b = .more m ∧ m.part = .fraction := by
  simp [step, hn, hb]

theorem step_of_exponent (hn : n.part = .exponent) (hb : isDigit b = true) :
    ∃ m, n.step b = .more m ∧ m.part = .exponent := by
  simp [step, hn, hb]

/-- A digit other than zero starts a numeral of digits. -/
theorem start?_of_isDigit (hb : isDigit b = true) (hne : b ≠ 0x30) :
    start? b = some ⟨.digits, false, b.toNat - 0x30⟩ := by
  have hminus : b ≠ 0x2D := by
    rintro rfl
    exact absurd hb (by decide)
  rw [start?, if_neg hminus, if_neg hne, if_pos hb]

theorem exists_ofBytes?_isSigned (h : IsSigned bytes) :
    ∃ n, ofBytes? bytes = some n ∧ n.IsInteger := by
  cases h with
  | plain h =>
    cases h with
    | zero => exact ⟨_, rfl, .inl rfl⟩
    | @digits b rest hb hne hrest =>
      obtain ⟨m, hm, hpart⟩ := exists_after?_digits (n := ⟨.digits, false, b.toNat - 0x30⟩)
        (fun _ _ => step_of_digits) rfl hrest
      exact ⟨m, by rw [ofBytes?, start?_of_isDigit hb hne, Option.bind_some, hm], .inr hpart⟩
  | minus h =>
    rw [ofBytes?, start?, if_pos rfl, Option.bind_some]
    cases h with
    | zero => exact ⟨_, rfl, .inl rfl⟩
    | @digits b rest hb hne hrest =>
      have hstep : (⟨.sign, true, 0⟩ : Numeral).step b = .more ⟨.digits, true, b.toNat - 0x30⟩ := by
        simp [step, hb, hne]
      obtain ⟨m, hm, hpart⟩ := exists_after?_digits (n := ⟨.digits, true, b.toNat - 0x30⟩)
        (fun _ _ => step_of_digits) rfl hrest
      exact ⟨m, (after?_cons hstep rest).trans hm, .inr hpart⟩

theorem IsInteger.step_point (h : n.IsInteger) :
    n.step 0x2E = .more { n with part := .point } := by
  rcases h with h | h <;> simp [step, h, afterInteger, isDigit]

/-- The mark of an exponent may follow the digits before a point and those behind it. -/
theorem step_mark (hn : n.IsInteger ∨ n.part = .fraction) (hb : IsMark b) :
    n.step b = .more { n with part := .mark } := by
  rcases hb with rfl | rfl
  · rcases hn with (h | h) | h <;> simp [step, h, afterInteger, isDigit]
  · rcases hn with (h | h) | h <;> simp [step, h, afterInteger, isDigit]

theorem exists_after?_isFraction (hn : n.IsInteger) (h : IsFraction bytes) :
    ∃ m, n.after? bytes = some m ∧ (m.IsInteger ∨ m.part = .fraction) := by
  cases h with
  | absent => exact ⟨n, rfl, .inl hn⟩
  | @point digits hdigits =>
    have hfirst (b : UInt8) (hb : isDigit b = true) :
        ∃ m, ({ n with part := .point } : Numeral).step b = .more m ∧ m.part = .fraction := by
      simp [step, hb]
    obtain ⟨m, hm, hpart⟩ := exists_after?_isDigits (fun _ _ => step_of_fraction) hfirst hdigits
    exact ⟨m, (after?_cons hn.step_point digits).trans hm, .inr hpart⟩

theorem exists_after?_isExponent (hn : n.IsInteger ∨ n.part = .fraction) (h : IsExponent bytes) :
    ∃ m, n.after? bytes = some m ∧ m.isWhole = true := by
  cases h with
  | absent =>
    refine ⟨n, rfl, ?_⟩
    rcases hn with hn | hn
    · exact hn.isWhole
    · rw [isWhole, hn]
  | @marked mark digits hmark hdigits =>
    have hfirst (b : UInt8) (hb : isDigit b = true) :
        ∃ m, ({ n with part := .mark } : Numeral).step b = .more m ∧ m.part = .exponent := by
      have hsign : ¬ (b = 0x2B ∨ b = 0x2D) := by
        rintro (rfl | rfl) <;> exact absurd hb (by decide)
      simp only [step]
      rw [if_neg hsign, if_pos hb]
      exact ⟨_, rfl, rfl⟩
    obtain ⟨m, hm, hpart⟩ := exists_after?_isDigits (fun _ _ => step_of_exponent) hfirst hdigits
    exact ⟨m, (after?_cons (step_mark hn hmark) digits).trans hm, by rw [isWhole, hpart]⟩
  | @signed mark sign digits hmark hsign hdigits =>
    have hstep : ({ n with part := .mark } : Numeral).step sign =
        .more { n with part := .markSign } := by
      simp only [step]
      rw [if_pos hsign]
    have hfirst (b : UInt8) (hb : isDigit b = true) :
        ∃ m, ({ n with part := .markSign } : Numeral).step b = .more m ∧ m.part = .exponent := by
      simp [step, hb]
    obtain ⟨m, hm, hpart⟩ := exists_after?_isDigits (fun _ _ => step_of_exponent) hfirst hdigits
    refine ⟨m, ?_, by rw [isWhole, hpart]⟩
    rw [after?_cons (step_mark hn hmark), after?_cons hstep, hm]

theorem exists_ofBytes?_of_isNumeral (h : IsNumeral bytes) :
    ∃ n, ofBytes? bytes = some n ∧ n.isWhole = true := by
  obtain ⟨hinteger, hfraction, hexponent⟩ := h
  obtain ⟨n, hn, hpart⟩ := exists_ofBytes?_isSigned hinteger
  obtain ⟨m, hm, hpart⟩ := exists_after?_isFraction hpart hfraction
  obtain ⟨last, hlast, hwhole⟩ := exists_after?_isExponent hpart hexponent
  refine ⟨last, ?_, hwhole⟩
  rw [ofBytes?_append hn, after?, foldlM_append_of_eq_some hm]
  exact hlast

end Numeral

/-- What has been read of a numeral, by the part that was read last. To digits before a point more
may come. -/
inductive NumeralPart.Holds : NumeralPart → Bytes → Prop
  | sign : Holds .sign [0x2D]
  | zero {bytes} : IsSigned bytes → Holds .zero bytes
  | digits {bytes} : (∀ more : Bytes, (∀ b ∈ more, Numeral.isDigit b = true) →
      IsSigned (bytes ++ more)) → Holds .digits bytes
  | point {integer} : IsSigned integer → Holds .point (integer ++ [0x2E])
  | fraction {integer digits} : IsSigned integer → IsDigits digits →
      Holds .fraction (integer ++ 0x2E :: digits)
  | mark {integer fraction mark} : IsSigned integer → IsFraction fraction → IsMark mark →
      Holds .mark (integer ++ (fraction ++ [mark]))
  | markSign {integer fraction mark sign} : IsSigned integer → IsFraction fraction → IsMark mark →
      sign = 0x2B ∨ sign = 0x2D → Holds .markSign (integer ++ (fraction ++ [mark, sign]))
  | exponent {integer fraction exponent} : IsSigned integer → IsFraction fraction →
      (∀ more : Bytes, (∀ b ∈ more, Numeral.isDigit b = true) → IsExponent (exponent ++ more)) →
      Holds .exponent (integer ++ (fraction ++ exponent))

namespace Numeral

variable {n m : Numeral} {bytes : Bytes} {b : UInt8}

theorem holds_of_start? (h : start? b = some n) : n.part.Holds [b] := by
  rw [start?] at h
  split at h
  · rename_i hb
    cases h
    rw [hb]
    exact .sign
  split at h
  · rename_i hb
    cases h
    rw [hb]
    exact .zero (.plain .zero)
  rename_i hzero
  split at h
  · rename_i hdigit
    cases h
    exact .digits fun more hmore => .plain (.digits hdigit hzero hmore)
  · cases h

/-- Behind the digits before a point a point or the mark of an exponent may follow. -/
theorem holds_of_afterInteger (h : IsSigned bytes) (hstep : n.afterInteger b = .more m) :
    m.part.Holds (bytes ++ [b]) := by
  rw [afterInteger] at hstep
  split at hstep
  · rename_i hb
    cases hstep
    rw [hb]
    exact .point h
  split at hstep
  · rename_i hmark
    cases hstep
    exact .mark h .absent hmark
  · cases hstep

theorem holds_of_step (h : n.part.Holds bytes) (hstep : n.step b = .more m) :
    m.part.Holds (bytes ++ [b]) := by
  rw [step] at hstep
  generalize hpart : n.part = part at h hstep
  cases h with
  | sign =>
    simp only at hstep
    split at hstep
    · rename_i hb
      cases hstep
      rw [hb]
      exact .zero (.minus .zero)
    rename_i hzero
    split at hstep
    · rename_i hdigit
      cases hstep
      exact .digits fun more hmore => .minus (.digits hdigit hzero hmore)
    · cases hstep
  | zero hsigned =>
    simp only at hstep
    split at hstep
    · cases hstep
    · exact holds_of_afterInteger hsigned hstep
  | digits hsigned =>
    simp only at hstep
    split at hstep
    · rename_i hdigit
      cases hstep
      refine .digits fun more hmore => ?_
      rw [List.append_assoc]
      exact hsigned _ (List.forall_mem_cons.mpr ⟨hdigit, hmore⟩)
    · have hbare := hsigned [] (by simp)
      rw [List.append_nil] at hbare
      exact holds_of_afterInteger hbare hstep
  | @point integer hsigned =>
    simp only at hstep
    split at hstep
    · rename_i hdigit
      cases hstep
      rw [List.append_assoc]
      exact .fraction hsigned (isDigits_singleton hdigit)
    · cases hstep
  | @fraction integer digits hsigned hdigits =>
    simp only at hstep
    split at hstep
    · rename_i hdigit
      cases hstep
      rw [hpart, List.append_assoc]
      exact .fraction hsigned (hdigits.append (by simpa using hdigit))
    split at hstep
    · rename_i hmark
      cases hstep
      rw [List.append_assoc]
      exact .mark hsigned (.point hdigits) hmark
    · cases hstep
  | @mark integer fraction mark hsigned hfraction hmark =>
    rw [List.append_assoc, List.append_assoc]
    simp only at hstep
    split at hstep
    · rename_i hsign
      cases hstep
      exact .markSign hsigned hfraction hmark hsign
    split at hstep
    · rename_i hdigit
      cases hstep
      exact .exponent hsigned hfraction fun more hmore =>
        .marked hmark ((isDigits_singleton hdigit).append hmore)
    · cases hstep
  | @markSign integer fraction mark sign hsigned hfraction hmark hsign =>
    rw [List.append_assoc, List.append_assoc]
    simp only at hstep
    split at hstep
    · rename_i hdigit
      cases hstep
      exact .exponent hsigned hfraction fun more hmore =>
        .signed hmark hsign ((isDigits_singleton hdigit).append hmore)
    · cases hstep
  | @exponent integer fraction exponent hsigned hfraction hexponent =>
    rw [List.append_assoc, List.append_assoc]
    simp only at hstep
    split at hstep
    · rename_i hdigit
      cases hstep
      rw [hpart]
      refine .exponent hsigned hfraction fun more hmore => ?_
      rw [List.append_assoc]
      exact hexponent _ (List.forall_mem_cons.mpr ⟨hdigit, hmore⟩)
    · cases hstep

theorem holds_of_ofBytes? (h : ofBytes? bytes = some n) : n.part.Holds bytes := by
  induction bytes using List.reverseRecOn generalizing n with
  | nil => cases h
  | append_singleton bytes b ih =>
    by_cases hne : bytes = []
    · subst hne
      rw [List.nil_append, ofBytes?, Option.bind_eq_some_iff] at h
      obtain ⟨first, hfirst, hn⟩ := h
      cases hn
      exact holds_of_start? hfirst
    · obtain ⟨last, hlast, hstep⟩ := (ofBytes?_concat_eq_some_iff hne).mp h
      exact holds_of_step (ih hlast) hstep

/-- A numeral may end where the grammar has one, and nowhere else. -/
theorem exists_ofBytes?_iff :
    (∃ n, ofBytes? bytes = some n ∧ n.isWhole = true) ↔ IsNumeral bytes := by
  refine ⟨fun ⟨n, hn, hwhole⟩ => ?_, exists_ofBytes?_of_isNumeral⟩
  have hholds := holds_of_ofBytes? hn
  rw [isWhole] at hwhole
  generalize n.part = part at hholds hwhole
  cases hholds with
  | zero hsigned => simpa using IsNumeral.mk hsigned .absent .absent
  | digits hsigned => simpa using IsNumeral.mk (hsigned [] (by simp)) .absent .absent
  | fraction hsigned hdigits => simpa using IsNumeral.mk hsigned (.point hdigits) .absent
  | exponent hsigned hfraction hexponent =>
    simpa using IsNumeral.mk hsigned hfraction (hexponent [] (by simp))
  | sign => cases hwhole
  | point => cases hwhole
  | mark => cases hwhole
  | markSign => cases hwhole

/-- What has been read is whole exactly if it is a numeral of the grammar. -/
theorem isWhole_iff_isNumeral (h : ofBytes? bytes = some n) :
    n.isWhole = true ↔ IsNumeral bytes := by
  rw [← exists_ofBytes?_iff]
  simp [h]

/-- Only a whole numeral is ended by what follows it. -/
theorem isWhole_of_step_eq_ended (h : n.step b = .ended) : n.isWhole = true := by
  rw [step] at h
  rw [isWhole]
  cases hpart : n.part with
  | zero | digits | fraction | exponent => rfl
  | sign | point | mark | markSign =>
    simp only [hpart] at h
    repeat' split at h
    all_goals cases h

end Numeral

end TicketGrant.Json
