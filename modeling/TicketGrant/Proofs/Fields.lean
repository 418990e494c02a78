import TicketGrant.Http.Header
import TicketGrant.Proofs.Encoding.Utf8

/-!
# Fields of a name

Which fields of a message a name finds, and what is read in them. Of several fields of one name the
first counts (`fieldValue?_eq_some_iff`), and a value is readable if it is the text of ASCII bytes
that can be seen, or of spaces and tabs (`readable?_eq_some_iff`).
-/
namespace TicketGrant.Http

/-- The fields of a name in a list of them and in another behind it. -/
theorem fieldValues_append (xs ys : List Header) (name : String) :
    fieldValues (xs ++ ys) name = fieldValues xs name ++ fieldValues ys name := by
  rw [fieldValues, List.filter_append, List.map_append]
  rfl

theorem fieldValues_map_ofText (values : List String) (field name : String) :
    fieldValues (values.map (Header.ofText field)) name =
      if lowerName field = lowerName name then values.map Utf8.encode else [] := by
  by_cases h : lowerName field = lowerName name
  · have hkept : values.filter (fun _ => true) = values := List.filter_eq_self.mpr fun _ _ => rfl
    simp [fieldValues, Header.ofText, List.filter_map, Function.comp_def, h, hkept]
  · simp [fieldValues, Header.ofText, List.filter_map, Function.comp_def, h]

/-- The fields before the first one of a name have other names. -/
theorem fieldValue?_eq_some_iff {headers : List Header} {name : String} {value : Bytes} :
    fieldValue? headers name = some value ↔
      ∃ before found after, headers = before ++ found :: after ∧
        (∀ other ∈ before, lowerName other.name ≠ lowerName name) ∧
        lowerName found.name = lowerName name ∧ found.value = value := by
  simp only [fieldValue?, Option.map_eq_some_iff, List.find?_eq_some_iff_append, beq_iff_eq,
    Bool.not_eq_true', beq_eq_false_iff_ne]
  constructor
  · rintro ⟨found, ⟨hname, before, after, rfl, hbefore⟩, rfl⟩
    exact ⟨before, found, after, rfl, hbefore, hname, rfl⟩
  · rintro ⟨before, found, after, rfl, hbefore, hname, rfl⟩
    exact ⟨found, ⟨hname, before, after, rfl, hbefore⟩, rfl⟩

theorem fieldValue?_of_absent {headers : List Header} {name : String}
    (h : ∀ other ∈ headers, lowerName other.name ≠ lowerName name) :
    fieldValue? headers name = none := by
  rw [fieldValue?, List.find?_eq_none.mpr fun other hother => by simpa using h other hother,
    Option.map_none]

/-- The text of ASCII bytes is written as these bytes. -/
theorem encode_asciiText {value : Bytes} (h : ∀ byte ∈ value, byte < 0x80) :
    Utf8.encode (asciiText value) = value := by
  have hchar (byte : UInt8) (hbyte : byte ∈ value) : (Char.ofNat byte.toNat).toNat = byte.toNat :=
    Utf8.toNat_charOfNat (UInt8.lt_iff_toNat_lt.mp (h byte hbyte))
  have hascii : ∀ c ∈ value.map fun byte => Char.ofNat byte.toNat, c.toNat < 0x80 := by
    intro c hc
    obtain ⟨byte, hbyte, rfl⟩ := List.mem_map.mp hc
    rw [hchar byte hbyte]
    exact UInt8.lt_iff_toNat_lt.mp (h byte hbyte)
  have hbytes : value.map ((fun c => UInt8.ofNat c.toNat) ∘ fun byte => Char.ofNat byte.toNat) =
      value.map id :=
    List.map_congr_left fun byte hbyte => by
      rw [Function.comp_apply, hchar byte hbyte, UInt8.ofNat_toNat, id]
  rw [asciiText, Utf8.encode_ofList_of_ascii hascii, Utf8.asciiBytes, List.map_map, hbytes,
    List.map_id]

/-- A value is read as the text whose bytes it is, if these are visible ASCII, spaces and tabs. -/
theorem readable?_eq_some_iff {value : Bytes} {text : String} :
    readable? value = some text ↔
      (∀ byte ∈ value, byte = 0x09 ∨ 0x20 ≤ byte ∧ byte < 0x7F) ∧ value = Utf8.encode text := by
  have hreadable (byte : UInt8) :
      isReadable byte = true ↔ byte = 0x09 ∨ 0x20 ≤ byte ∧ byte < 0x7F := by
    simp [isReadable, or_comm]
  have hascii (h : ∀ byte ∈ value, byte = 0x09 ∨ 0x20 ≤ byte ∧ byte < 0x7F) :
      Utf8.encode (asciiText value) = value := by
    refine encode_asciiText fun byte hbyte => ?_
    rcases h byte hbyte with rfl | ⟨-, hlt⟩
    · decide
    · exact UInt8.lt_trans hlt (by decide)
  simp only [readable?, List.all_eq_true, hreadable, Option.ite_none_right_eq_some,
    Option.some.injEq]
  refine and_congr_right fun h => ?_
  rw [← hascii h, Utf8.encode_injective.eq_iff, hascii h]

end TicketGrant.Http
