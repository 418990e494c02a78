import TicketGrant.Encoding.Form
import TicketGrant.Proofs.Encoding.Utf8

/-!
# Forms undone

A form that is written can be read, whatever stands in it: each byte of a name or a value comes back
from what it is written as, and what it is written as holds no separator, so the pieces between
`&` are the entries and the first `=` of a piece ends its name (`decode_encode`).
-/
namespace TicketGrant

open Utf8

/-! ### Escapes -/

namespace Percent

theorem hexValue?_hexDigit :
    ∀ n < 16, hexValue? (UInt8.ofNat (hexDigit n).toNat) = some n := by
  decide

/-- A byte that opens no escape stands for itself. -/
theorem decode_cons_of_ne {b : UInt8} (hb : b ≠ 0x25) (rest : Bytes) :
    decode (b :: rest) = b :: decode rest := by
  rw [decode]
  rintro h l more rfl
  exact absurd rfl hb

/-- An escape is read as its byte. -/
theorem decode_escape (b : UInt8) (rest : Bytes) :
    decode (asciiBytes (escape b) ++ rest) = b :: decode rest := by
  have hb : b.toNat < 256 := b.toNat_lt
  have hescape : asciiBytes (escape b) = [0x25, UInt8.ofNat (hexDigit (b.toNat / 16)).toNat,
      UInt8.ofNat (hexDigit (b.toNat % 16)).toNat] := rfl
  have hparts : b.toNat / 16 * 16 + b.toNat % 16 = b.toNat := by omega
  rw [hescape, List.cons_append, List.cons_append, List.cons_append, List.nil_append, decode,
    hexValue?_hexDigit _ (by omega), hexValue?_hexDigit _ (by omega)]
  simp only [hparts, UInt8.ofNat_toNat]

end Percent

namespace Form

/-! ### The bytes of a written name or value -/

/-- The bytes that occur in a written name or value: the plain ones, `+` and `%`. -/
def isWritten (b : UInt8) : Bool := isPlain b || b == 0x2B || b == 0x25

theorem isPlain_iff {b : UInt8} :
    isPlain b = true ↔ 0x30 ≤ b.toNat ∧ b.toNat ≤ 0x39 ∨ 0x41 ≤ b.toNat ∧ b.toNat ≤ 0x5A ∨
      0x61 ≤ b.toNat ∧ b.toNat ≤ 0x7A ∨ b.toNat = 0x2A ∨ b.toNat = 0x2D ∨ b.toNat = 0x2E ∨
      b.toNat = 0x5F := by
  simp [isPlain, UInt8.le_iff_toNat_le, ← UInt8.toNat_inj, or_assoc]

/-- A written byte is visible ASCII, and none of the separators. -/
theorem toNat_of_isWritten {b : UInt8} (h : isWritten b = true) :
    0x20 < b.toNat ∧ b.toNat < 0x7F ∧ b.toNat ≠ 0x26 ∧ b.toNat ≠ 0x3A ∧ b.toNat ≠ 0x3D := by
  simp only [isWritten, Bool.or_eq_true, isPlain_iff, beq_iff_eq, ← UInt8.toNat_inj,
    UInt8.reduceToNat] at h
  omega

theorem ne_of_isWritten {b separator : UInt8} (hseparator : separator ∈ [0x26, 0x3A, 0x3D])
    (h : isWritten b = true) : b ≠ separator := by
  have := toNat_of_isWritten h
  rintro rfl
  simp only [List.mem_cons, ← UInt8.toNat_inj, UInt8.reduceToNat, List.not_mem_nil,
    or_false] at hseparator
  omega

/-- A character that stands for a written byte. -/
def IsWrittenChar (c : Char) : Prop := c.toNat < 0x80 ∧ isWritten (UInt8.ofNat c.toNat) = true

theorem isWrittenChar_hexDigit : ∀ n < 16, IsWrittenChar (Percent.hexDigit n) := by
  unfold IsWrittenChar
  decide

/-- A plain byte as a character. -/
theorem toNat_ofNat_of_isPlain {b : UInt8} (h : isPlain b = true) :
    (Char.ofNat b.toNat).toNat = b.toNat := by
  have := isPlain_iff.mp h
  exact toNat_charOfNat (by omega)

theorem isWrittenChar_of_mem_encodeByte {b : UInt8} {c : Char} (h : c ∈ encodeByte b) :
    IsWrittenChar c := by
  have hb : b.toNat < 256 := b.toNat_lt
  unfold encodeByte at h
  split at h
  · rename_i hplain
    obtain rfl := List.mem_singleton.mp h
    have hlow := isPlain_iff.mp hplain
    refine ⟨by rw [toNat_ofNat_of_isPlain hplain]; omega, ?_⟩
    rw [toNat_ofNat_of_isPlain hplain, UInt8.ofNat_toNat, isWritten, hplain]
    rfl
  · split at h
    · obtain rfl := List.mem_singleton.mp h
      exact ⟨by decide, by decide⟩
    · simp only [Percent.escape, List.mem_cons, List.not_mem_nil, or_false] at h
      rcases h with rfl | rfl | rfl
      · exact ⟨by decide, by decide⟩
      · exact isWrittenChar_hexDigit _ (by omega)
      · exact isWrittenChar_hexDigit _ (by omega)

theorem isWrittenChar_of_mem_encodePart {part : String} {c : Char} (h : c ∈ encodePart part) :
    IsWrittenChar c := by
  obtain ⟨b, -, hc⟩ := List.mem_flatMap.mp h
  exact isWrittenChar_of_mem_encodeByte hc

/-- A written name or value, as bytes. -/
def partBytes (part : String) : Bytes := asciiBytes (encodePart part)

theorem isWritten_of_mem_partBytes {part : String} {b : UInt8} (h : b ∈ partBytes part) :
    isWritten b = true := by
  obtain ⟨c, hc, rfl⟩ := List.mem_map.mp h
  exact (isWrittenChar_of_mem_encodePart hc).2

theorem not_mem_partBytes {separator : UInt8} (hseparator : separator ∈ [0x26, 0x3A, 0x3D])
    (part : String) : separator ∉ partBytes part :=
  fun h => ne_of_isWritten hseparator (isWritten_of_mem_partBytes h) rfl

/-! ### Names and values -/

/-- A `+` is read as a space, and any other byte as itself. -/
def unplus (b : UInt8) : UInt8 := if b = 0x2B then 0x20 else b

theorem unplus_of_ne {b : UInt8} (h : b ≠ 0x2B) : unplus b = b := if_neg h

theorem unplus_hexDigit :
    ∀ n < 16, unplus (UInt8.ofNat (Percent.hexDigit n).toNat) =
      UInt8.ofNat (Percent.hexDigit n).toNat := by
  decide

/-- There is no `+` in an escape. -/
theorem map_unplus_escape (b : UInt8) :
    (asciiBytes (Percent.escape b)).map unplus = asciiBytes (Percent.escape b) := by
  have hb : b.toNat < 256 := b.toNat_lt
  have hhigh := unplus_hexDigit (b.toNat / 16) (by omega)
  have hlow := unplus_hexDigit (b.toNat % 16) (by omega)
  simp only [Percent.escape, asciiBytes, List.map_cons, List.map_nil, hhigh, hlow]
  rfl

/-- A byte comes back from what it is written as. -/
theorem decode_encodeByte (b : UInt8) (rest : Bytes) :
    Percent.decode ((asciiBytes (encodeByte b)).map unplus ++ rest) =
      b :: Percent.decode rest := by
  unfold encodeByte
  split
  · rename_i hplain
    have hplus : b ≠ 0x2B := by
      rintro rfl
      exact absurd hplain (by decide)
    have hpercent : b ≠ 0x25 := by
      rintro rfl
      exact absurd hplain (by decide)
    rw [asciiBytes, List.map_singleton, List.map_singleton, toNat_ofNat_of_isPlain hplain,
      UInt8.ofNat_toNat, unplus_of_ne hplus]
    exact Percent.decode_cons_of_ne hpercent rest
  · split
    · rename_i _ hspace
      subst hspace
      exact Percent.decode_cons_of_ne (by decide) rest
    · rw [map_unplus_escape, Percent.decode_escape]

theorem decode_encodeBytes (bytes rest : Bytes) :
    Percent.decode ((asciiBytes (bytes.flatMap encodeByte)).map unplus ++ rest) =
      bytes ++ Percent.decode rest := by
  induction bytes with
  | nil => rfl
  | cons b bytes ih =>
    rw [List.flatMap_cons, asciiBytes_append, List.map_append, List.append_assoc,
      decode_encodeByte, ih, List.cons_append]

/-- A name or a value comes back from what it is written as. -/
@[simp] theorem decodePart_partBytes (part : String) : decodePart (partBytes part) = part := by
  have hdecode := decode_encodeBytes (Utf8.encode part) []
  rw [List.append_nil] at hdecode
  have hpart : decodePart (partBytes part) =
      decodeLossy (Percent.decode ((partBytes part).map unplus)) := rfl
  rw [hpart, partBytes, encodePart, hdecode]
  simp [Percent.decode]

/-! ### Separators -/

section Cut
variable {separator : UInt8} {name : Bytes}

/-- What stands before the first separator. -/
theorem takeWhile_append_cons (h : separator ∉ name) (value : Bytes) :
    (name ++ separator :: value).takeWhile (· != separator) = name := by
  rw [List.takeWhile_append_of_pos fun b hb => by simpa using ne_of_mem_of_not_mem hb h]
  simp

/-- What stands behind the first separator. -/
theorem drop_dropWhile_append_cons (h : separator ∉ name) (value : Bytes) :
    ((name ++ separator :: value).dropWhile (· != separator)).drop 1 = value := by
  rw [List.dropWhile_append_of_pos fun b hb => by simpa using ne_of_mem_of_not_mem hb h]
  simp

end Cut

theorem split_cons (separator b : UInt8) (bytes : Bytes) :
    split separator (b :: bytes) =
      if b = separator then [] :: split separator bytes
      else (split separator bytes).modifyHead (b :: ·) := by
  simp only [split, List.foldr_cons]
  split <;> rfl

/-- The pieces between separators are those of the library. -/
theorem split_eq_splitOn (separator : UInt8) (bytes : Bytes) :
    split separator bytes = bytes.splitOn separator := by
  induction bytes with
  | nil => rfl
  | cons b bytes ih =>
    simp only [split_cons, ih, List.splitOn, List.splitOnP_cons_eq_if_modifyHead, beq_iff_eq]

/-! ### Entries -/

/-- A written entry, as bytes. -/
def entryBytes (entry : String × String) : Bytes := partBytes entry.1 ++ 0x3D :: partBytes entry.2

/-- An entry comes back from what it is written as. -/
theorem decodeEntry_entryBytes (entry : String × String) :
    decodeEntry (entryBytes entry) = entry := by
  have hname : (0x3D : UInt8) ∉ partBytes entry.1 := not_mem_partBytes (by decide) _
  rw [decodeEntry, entryBytes, takeWhile_append_cons hname, drop_dropWhile_append_cons hname,
    decodePart_partBytes, decodePart_partBytes]

theorem not_mem_entryBytes (entry : String × String) : (0x26 : UInt8) ∉ entryBytes entry := by
  rw [entryBytes, List.mem_append, List.mem_cons, not_or, not_or]
  exact ⟨not_mem_partBytes (by decide) _, by decide, not_mem_partBytes (by decide) _⟩

theorem isEmpty_entryBytes (entry : String × String) : (entryBytes entry).isEmpty = false := by
  rw [List.isEmpty_eq_false_iff]
  simp [entryBytes]

theorem asciiBytes_encodeEntry (entry : String × String) :
    asciiBytes (encodeEntry entry) = entryBytes entry := by
  rw [encodeEntry, asciiBytes_append, asciiBytes_cons]
  rfl

theorem lt_of_mem_encodeEntry {entry : String × String} {c : Char} (h : c ∈ encodeEntry entry) :
    c.toNat < 0x80 := by
  rw [encodeEntry, List.mem_append, List.mem_cons] at h
  rcases h with h | rfl | h
  · exact (isWrittenChar_of_mem_encodePart h).1
  · decide
  · exact (isWrittenChar_of_mem_encodePart h).1

/-! ### Forms -/

theorem asciiBytes_intercalate (entries : List (String × String)) :
    asciiBytes (List.intercalate ['&'] (entries.map encodeEntry)) =
      List.intercalate [0x26] (entries.map entryBytes) := by
  induction entries with
  | nil => rfl
  | cons entry entries ih =>
    cases entries with
    | nil => simpa using asciiBytes_encodeEntry entry
    | cons next entries =>
      simp only [List.map_cons, List.intercalate_cons_cons, asciiBytes_append] at ih ⊢
      rw [ih, asciiBytes_encodeEntry]
      rfl

theorem lt_of_mem_intercalate {entries : List (String × String)} {c : Char}
    (h : c ∈ List.intercalate ['&'] (entries.map encodeEntry)) : c.toNat < 0x80 := by
  induction entries with
  | nil => cases h
  | cons entry entries ih =>
    cases entries with
    | nil => exact lt_of_mem_encodeEntry (by simpa using h)
    | cons next entries =>
      simp only [List.map_cons, List.intercalate_cons_cons, List.mem_append,
        List.mem_singleton] at h ih
      rcases h with (h | rfl) | h
      · exact lt_of_mem_encodeEntry h
      · decide
      · exact ih h

/-- The bytes of a form: those of its entries, with separators between them. -/
theorem utf8_encode (entries : List (String × String)) :
    Utf8.encode (encode entries) = List.intercalate [0x26] (entries.map entryBytes) := by
  rw [encode, encode_ofList_of_ascii fun c hc => lt_of_mem_intercalate hc, asciiBytes_intercalate]

/-- A form comes back from its bytes: all entries, in order, and nothing else. -/
@[simp] theorem decode_encode (entries : List (String × String)) :
    decode (Utf8.encode (encode entries)) = entries := by
  rw [decode, utf8_encode, split_eq_splitOn]
  cases entries with
  | nil => rfl
  | cons entry entries =>
    have hseparated : ∀ piece ∈ (entry :: entries).map entryBytes, (0x26 : UInt8) ∉ piece := by
      intro piece hpiece
      obtain ⟨one, -, rfl⟩ := List.mem_map.mp hpiece
      exact not_mem_entryBytes one
    rw [List.splitOn_intercalate 0x26 hseparated (by simp), List.filter_map, List.map_map]
    have hkept : (entry :: entries).filter ((!·.isEmpty) ∘ entryBytes) = entry :: entries := by
      rw [List.filter_eq_self]
      intro one _
      simp [isEmpty_entryBytes]
    have hread : decodeEntry ∘ entryBytes = id := funext decodeEntry_entryBytes
    rw [hkept, hread, List.map_id]

/-- Separators and signs of the written form are escaped where they stand in a value. -/
example : encode [("scope", "a b"), ("pop", "&=+%")] = "scope=a+b&pop=%26%3D%2B%25" := by
  decide +kernel

end Form
end TicketGrant
