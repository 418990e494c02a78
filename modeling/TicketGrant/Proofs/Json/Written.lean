import TicketGrant.Json.Value
import TicketGrant.Proofs.Encoding.Utf8
import TicketGrant.Proofs.Json.Grammar

/-!
# Documents undone

What is written is a document of the grammar, and spells the tree of its value (`Value.spells_write`);
so it is read as that tree, with nothing left over (`read_render`). Texts and numerals are written
token by token: what is written of a text is read as its bytes, and the digits of an integer as that
integer.
-/
namespace TicketGrant.Json

open Utf8

/-- The bytes of some characters. -/
def bytesOf (text : List Char) : Bytes := text.flatMap String.utf8EncodeChar

@[simp] theorem bytesOf_nil : bytesOf [] = [] := rfl

@[simp] theorem bytesOf_append (a b : List Char) : bytesOf (a ++ b) = bytesOf a ++ bytesOf b :=
  List.flatMap_append

theorem bytesOf_cons (c : Char) (text : List Char) :
    bytesOf (c :: text) = String.utf8EncodeChar c ++ bytesOf text := List.flatMap_cons

theorem encode_ofList (text : List Char) : Utf8.encode (String.ofList text) = bytesOf text := by
  rw [Utf8.encode, String.toList_ofList, bytesOf]

/-- An ASCII character is one byte. -/
theorem utf8EncodeChar_of_lt {c : Char} (h : c.toNat < 0x80) :
    String.utf8EncodeChar c = [UInt8.ofNat c.toNat] := by
  simp only [String.utf8EncodeChar, Char.toNat_val]
  rw [if_pos (by omega)]

/-- Every byte of another character is above ASCII. -/
theorem le_of_mem_utf8EncodeChar {c : Char} (h : 0x80 ≤ c.toNat) {b : UInt8}
    (hb : b ∈ String.utf8EncodeChar c) : 0x80 ≤ b.toNat := by
  have hhigh (n : Nat) (hlow : 0x80 ≤ n % 256) : 0x80 ≤ (UInt8.ofNat n).toNat := by
    rwa [UInt8.toNat_ofNat']
  simp only [String.utf8EncodeChar, Char.toNat_val] at hb
  rw [if_neg (by omega)] at hb
  split at hb
  · simp only [List.mem_cons, List.not_mem_nil, or_false] at hb
    rcases hb with rfl | rfl
    · exact hhigh _ (by omega)
    · exact hhigh _ (by omega)
  split at hb
  · simp only [List.mem_cons, List.not_mem_nil, or_false] at hb
    rcases hb with rfl | rfl | rfl
    · exact hhigh _ (by omega)
    · exact hhigh _ (by omega)
    · exact hhigh _ (by omega)
  · simp only [List.mem_cons, List.not_mem_nil, or_false] at hb
    rcases hb with rfl | rfl | rfl | rfl
    · exact hhigh _ (by omega)
    · exact hhigh _ (by omega)
    · exact hhigh _ (by omega)
    · exact hhigh _ (by omega)

/-- An ASCII byte stands only in the encoding of its own character. -/
theorem toNat_eq_of_mem_utf8EncodeChar {c : Char} {b : UInt8} (hb : b ∈ String.utf8EncodeChar c)
    (hascii : b.toNat < 0x80) : b.toNat = c.toNat := by
  have hchar : c.toNat < 0x80 := by
    by_contra hhigh
    have hbyte := le_of_mem_utf8EncodeChar (Nat.le_of_not_lt hhigh) hb
    omega
  rw [utf8EncodeChar_of_lt hchar] at hb
  rw [List.mem_singleton.mp hb, UInt8.toNat_ofNat', Nat.mod_eq_of_lt (by omega)]

/-! ### Texts -/

namespace TextReading

/-- Between two characters, with these bytes read. -/
def between (bytes : Bytes) : TextReading := ⟨.plain, bytes.reverse, none, false⟩

/-- A byte that is neither a quotation mark, nor a backslash, nor a control character stands for
itself. -/
theorem step_between {b : UInt8} (hquote : b ≠ 0x22) (hslash : b ≠ 0x5C) (hlow : 0x20 ≤ b.toNat)
    (bytes : Bytes) : (between bytes).step b = .more (between (bytes ++ [b])) := by
  have hcontrol : ¬ b < 0x20 := by
    simp only [UInt8.lt_iff_toNat_lt, UInt8.reduceToNat]
    omega
  simp only [step, between]
  rw [if_neg hquote, if_neg hslash, if_neg hcontrol]
  simp [push]

theorem after?_of_plain {xs : Bytes} (bytes : Bytes)
    (h : ∀ b ∈ xs, b ≠ 0x22 ∧ b ≠ 0x5C ∧ 0x20 ≤ b.toNat) :
    (between bytes).after? xs = some (between (bytes ++ xs)) := by
  induction xs generalizing bytes with
  | nil => rw [List.append_nil]; rfl
  | cons x xs ih =>
    obtain ⟨⟨hquote, hslash, hlow⟩, hxs⟩ := List.forall_mem_cons.mp h
    rw [after?_cons (step_between hquote hslash hlow bytes), ih _ hxs, List.append_assoc,
      List.singleton_append]

/-- An escape of one letter is read as the byte that it stands for. -/
theorem after?_of_escaped {b c : UInt8} (bytes : Bytes) (hletter : b ≠ 0x75)
    (h : escaped? b = some c) :
    (between bytes).after? [0x5C, b] = some (between (bytes ++ [c])) := by
  have hslash : (between bytes).step 0x5C = .more { between bytes with part := .escape } := rfl
  have hb : ({ between bytes with part := .escape } : TextReading).step b =
      .more (between (bytes ++ [c])) := by
    simp only [step]
    rw [if_neg hletter, h]
    simp [push, between]
  rw [after?_cons hslash, after?_cons hb]
  rfl

/-- The digits of an escape, read as the number of a character. -/
theorem hexValue?_hexDigit : ∀ n < 16, hexValue? (UInt8.ofNat (hexDigit n).toNat) = some n := by
  decide

/-- An escape with a number below U+0020 is read as the character of that number. -/
theorem after?_of_unit {n : Nat} (bytes : Bytes) (hn : n < 0x20) :
    (between bytes).after? [0x5C, 0x75, 0x30, 0x30, UInt8.ofNat (hexDigit (n / 16)).toNat,
        UInt8.ofNat (hexDigit (n % 16)).toNat] =
      some (between (bytes ++ String.utf8EncodeChar (Char.ofNat n))) := by
  have hhigh := hexValue?_hexDigit (n / 16) (by omega)
  have hlow := hexValue?_hexDigit (n % 16) (by omega)
  have hzero : hexValue? 0x30 = some 0 := rfl
  have hvalue : n / 16 * 16 + n % 16 = n := by omega
  have hstep (owed value digit : Nat) (b : UInt8) (hb : hexValue? b = some digit)
      (howed : ¬ owed ≤ 1) :
      (⟨.unit owed value, bytes.reverse, none, false⟩ : TextReading).step b =
        .more ⟨.unit (owed - 1) (value * 16 + digit), bytes.reverse, none, false⟩ := by
    simp only [step, hb]
    rw [if_neg howed]
  have hlast : (⟨.unit 1 (n / 16), bytes.reverse, none, false⟩ : TextReading).step
        (UInt8.ofNat (hexDigit (n % 16)).toNat) =
      .more (between (bytes ++ String.utf8EncodeChar (Char.ofNat n))) := by
    simp only [step, hlow, hvalue]
    -- a number below U+0020 is no half of a pair
    rw [if_pos (Nat.le_refl 1), pushUnit, if_neg (by omega)]
    simp only
    rw [if_neg (by omega)]
    simp [pushChar, between]
  have hslash : (between bytes).step 0x5C =
      .more ⟨.escape, bytes.reverse, none, false⟩ := rfl
  have hunit : (⟨.escape, bytes.reverse, none, false⟩ : TextReading).step 0x75 =
      .more ⟨.unit 4 0, bytes.reverse, none, false⟩ := rfl
  have hfirst := hstep 4 0 0 0x30 hzero (by omega)
  have hsecond := hstep 3 0 0 0x30 hzero (by omega)
  have hthird := hstep 2 0 (n / 16) _ hhigh (by omega)
  simp only [Nat.zero_mul, Nat.zero_add, Nat.reduceSub] at hfirst hsecond hthird
  rw [after?_cons hslash, after?_cons hunit, after?_cons hfirst, after?_cons hsecond,
    after?_cons hthird, after?_cons hlast]
  rfl

/-- The bytes of an escape with a number below U+0020. -/
theorem bytesOf_unit {n : Nat} (hn : n < 0x20) :
    bytesOf ['\\', 'u', '0', '0', hexDigit (n / 16), hexDigit (n % 16)] =
      [0x5C, 0x75, 0x30, 0x30, UInt8.ofNat (hexDigit (n / 16)).toNat,
        UInt8.ofNat (hexDigit (n % 16)).toNat] := by
  have hascii : ∀ d < 16, (hexDigit d).toNat < 0x80 := by decide
  simp only [bytesOf_cons, bytesOf_nil, utf8EncodeChar_of_lt (hascii (n / 16) (by omega)),
    utf8EncodeChar_of_lt (hascii (n % 16) (by omega))]
  rfl

/-- The bytes of a character that needs no escape stand for themselves. -/
theorem plain_of_mem_utf8EncodeChar {c : Char} (hquote : c ≠ '\x22') (hslash : c ≠ '\\')
    (hlow : 0x20 ≤ c.toNat) {b : UInt8} (hb : b ∈ String.utf8EncodeChar c) :
    b ≠ 0x22 ∧ b ≠ 0x5C ∧ 0x20 ≤ b.toNat := by
  refine ⟨?_, ?_, ?_⟩
  · rintro rfl
    exact hquote (Char.toNat_inj.mp (toNat_eq_of_mem_utf8EncodeChar hb (by decide)).symm)
  · rintro rfl
    exact hslash (Char.toNat_inj.mp (toNat_eq_of_mem_utf8EncodeChar hb (by decide)).symm)
  · by_contra hcontrol
    have hchar := toNat_eq_of_mem_utf8EncodeChar hb (by omega)
    omega

/-- A written character is read as that character. -/
theorem after?_escapeChar (c : Char) (bytes : Bytes) :
    (between bytes).after? (bytesOf (escapeChar c)) =
      some (between (bytes ++ String.utf8EncodeChar c)) := by
  unfold escapeChar
  split
  · subst_vars; exact after?_of_escaped bytes (by decide) rfl
  split
  · subst_vars; exact after?_of_escaped bytes (by decide) rfl
  split
  · subst_vars; exact after?_of_escaped bytes (by decide) rfl
  split
  · subst_vars; exact after?_of_escaped bytes (by decide) rfl
  split
  · subst_vars; exact after?_of_escaped bytes (by decide) rfl
  split
  · subst_vars; exact after?_of_escaped bytes (by decide) rfl
  split
  · subst_vars; exact after?_of_escaped bytes (by decide) rfl
  split
  · rename_i hlow
    rw [bytesOf_unit hlow, after?_of_unit bytes hlow, Char.ofNat_toNat]
  · rename_i hquote hslash _ _ _ _ _ hlow
    rw [bytesOf_cons, bytesOf_nil, List.append_nil]
    exact after?_of_plain bytes fun b hb =>
      plain_of_mem_utf8EncodeChar hquote hslash (Nat.le_of_not_lt hlow) hb

/-- A text between its quotation marks is read as its bytes. -/
theorem after?_escaped (text : List Char) (bytes : Bytes) :
    (between bytes).after? (bytesOf (text.flatMap escapeChar)) =
      some (between (bytes ++ bytesOf text)) := by
  induction text generalizing bytes with
  | nil => simp [after?]
  | cons c text ih =>
    have hfirst := foldlM_append_of_eq_some (after?_escapeChar c bytes)
    rw [List.flatMap_cons, bytesOf_append, after?, hfirst, bytesOf_cons, ← List.append_assoc]
    exact ih _

/-- The bytes of a text are read behind its opening quotation mark. -/
theorem after?_start (text : String) :
    start.after? (bytesOf (text.toList.flatMap escapeChar)) =
      some (between (bytesOf text.toList)) :=
  after?_escaped text.toList []

/-- The text behind its bytes has its content. -/
theorem content_between (text : String) : (between (bytesOf text.toList)).content = some text := by
  have hbytes : bytesOf text.toList = Utf8.encode text := rfl
  rw [content, between, List.reverse_reverse, hbytes, decode?_encode]
  rfl

end TextReading

/-- What is written of a text between its quotation marks is a text of the grammar. -/
theorem isText_escaped (text : String) : IsText (bytesOf (text.toList.flatMap escapeChar)) :=
  TextReading.exists_after?_iff.mp ⟨_, TextReading.after?_start text, rfl⟩

/-! ### Numerals -/

namespace Numeral

/-- The byte of a decimal digit. -/
theorem digitByte {d : Nat} (hd : d < 10) :
    bytesOf [Nat.digitChar d] = [UInt8.ofNat (48 + d)] ∧
      isDigit (UInt8.ofNat (48 + d)) = true ∧ (UInt8.ofNat (48 + d)).toNat - 0x30 = d := by
  have hchar : (Nat.digitChar d).toNat = 48 + d := Nat.toNat_digitChar_of_lt_ten hd
  have hbyte : (UInt8.ofNat (48 + d)).toNat = 48 + d := by
    rw [UInt8.toNat_ofNat', Nat.mod_eq_of_lt (by omega)]
  refine ⟨?_, ?_, by omega⟩
  · rw [bytesOf_cons, utf8EncodeChar_of_lt (by omega), hchar]
    rfl
  · simp only [isDigit, UInt8.le_iff_toNat_le, hbyte, Bool.and_eq_true, decide_eq_true_eq,
      UInt8.reduceToNat]
    omega

/-- The digits of a positive number are read as that number. -/
theorem exists_digits {n : Nat} (hn : 0 < n) :
    ∃ b rest, bytesOf (Nat.toDigits 10 n) = b :: rest ∧ isDigit b = true ∧ b ≠ 0x30 ∧
      ∀ negative, (⟨.digits, negative, b.toNat - 0x30⟩ : Numeral).after? rest =
        some ⟨.digits, negative, n⟩ := by
  induction n using Nat.strongRecOn with
  | ind n ih =>
    by_cases hsmall : n < 10
    · obtain ⟨hbytes, hdigit, hvalue⟩ := digitByte hsmall
      refine ⟨UInt8.ofNat (48 + n), [], ?_, hdigit, ?_, ?_⟩
      · rw [Nat.toDigits_of_lt_base hsmall, hbytes]
      · intro hzero
        rw [hzero] at hvalue
        simp at hvalue
        omega
      · intro negative
        rw [hvalue]
        rfl
    · -- the last digit stands behind those of the tenth
      obtain ⟨b, rest, hrest, hdigit, hne, hafter⟩ := ih (n / 10) (by omega) (by omega)
      obtain ⟨hbytes, hlast, hvalue⟩ := digitByte (d := n % 10) (by omega)
      refine ⟨b, rest ++ [UInt8.ofNat (48 + n % 10)], ?_, hdigit, hne, fun negative => ?_⟩
      · rw [Nat.toDigits_of_base_le (by decide) (by omega), bytesOf_append, hrest, hbytes,
          List.cons_append]
      · have hstep : (⟨.digits, negative, n / 10⟩ : Numeral).step (UInt8.ofNat (48 + n % 10)) =
            .more ⟨.digits, negative, n⟩ := by
          have hn : n / 10 * 10 + n % 10 = n := by omega
          simp only [step, hlast, if_true, hvalue, hn]
        rw [after?, foldlM_append_of_eq_some (hafter negative)]
        exact after?_cons hstep []

/-- A written integer is read as a numeral with that value. -/
theorem exists_integer (i : Int) :
    ∃ n, ofBytes? (bytesOf (toString i).toList) = some n ∧ n.IsInteger ∧ n.value? = some i := by
  rw [Int.toString_eq_repr, Int.repr_eq_if]
  split
  · rename_i hpos
    rw [Nat.toList_repr]
    by_cases hzero : i.toNat = 0
    · obtain rfl : i = 0 := by omega
      exact ⟨⟨.zero, false, 0⟩, rfl, .inl rfl, rfl⟩
    · obtain ⟨b, rest, hbytes, hdigit, hne, hafter⟩ := exists_digits (n := i.toNat) (by omega)
      refine ⟨⟨.digits, false, i.toNat⟩, ?_, .inr rfl, ?_⟩
      · rw [hbytes, ofBytes?, start?_of_isDigit hdigit hne]
        exact hafter false
      · simp only [value?, Bool.false_eq_true, if_false]
        rw [Int.toNat_of_nonneg hpos]
  · rename_i hneg
    obtain ⟨b, rest, hbytes, hdigit, hne, hafter⟩ := exists_digits (n := (-i).toNat) (by omega)
    have hlist : bytesOf ("-" ++ (-i).toNat.repr).toList = 0x2D :: b :: rest := by
      rw [String.toList_append, bytesOf_append, Nat.toList_repr, hbytes]
      rfl
    have hstep : (⟨.sign, true, 0⟩ : Numeral).step b = .more ⟨.digits, true, b.toNat - 0x30⟩ := by
      simp only [step, hdigit, if_true]
      rw [if_neg hne]
    refine ⟨⟨.digits, true, (-i).toNat⟩, ?_, .inr rfl, ?_⟩
    · rw [hlist, ofBytes?]
      exact (after?_cons hstep rest).trans (hafter true)
    · simp only [value?, if_true]
      rw [Int.toNat_of_nonneg (by omega), Int.neg_neg]

end Numeral

/-! ### Values -/

/-- What a written name is read as. -/
def Name.node : Name → Option String
  | .text name => some name
  | .octets _ => some ""

namespace Value

mutual
/-- What a written value is read as. -/
def node : Value → Node
  | .null => .null
  | .bool value => .bool value
  | .integer value => .number (some value)
  | .text content => .text (some content)
  | .list items => .list (itemNodes items) .closed
  | .object members => .object (memberNodes members) .closed

/-- What the elements of a list are read as. -/
def itemNodes : List Value → List Node
  | [] => []
  | v :: rest => v.node :: itemNodes rest

/-- What the members of an object are read as. -/
def memberNodes : List (Name × Value) → List (Option String × Node)
  | [] => []
  | (name, v) :: rest => (name.node, v.node) :: memberNodes rest
end

end Value

theorem spells_writeText (text : String) :
    Spells (.value (.text (some text))) (bytesOf (writeText text)) := by
  have hbytes : bytesOf (writeText text) =
      0x22 :: (bytesOf (text.toList.flatMap escapeChar) ++ [0x22]) := by
    rw [writeText, bytesOf_cons, bytesOf_append]
    rfl
  rw [hbytes, ← TextReading.content_between]
  exact .text (isText_escaped text) (TextReading.after?_start text)

theorem spells_integer (i : Int) :
    Spells (.value (.number (some i))) (bytesOf (toString i).toList) := by
  obtain ⟨n, hn, hinteger, hvalue⟩ := Numeral.exists_integer i
  rw [← hvalue]
  exact .numeral ((Numeral.isWhole_iff_isNumeral hn).mp hinteger.isWhole) hn

/-- A written member spells its name and its value. -/
theorem spells_member (name : Name) {v : Value} (h : Spells (.value v.node) (bytesOf v.write)) :
    Spells (.member (name.node, v.node)) (bytesOf (name.write ++ ':' :: v.write)) := by
  obtain ⟨text, hwrite, hnode⟩ : ∃ text, name.write = writeText text ∧ name.node = some text := by
    cases name with
    | text text => exact ⟨text, rfl, rfl⟩
    | octets bytes => exact ⟨"", rfl, rfl⟩
  have hbytes : bytesOf (name.write ++ ':' :: v.write) =
      [] ++ 0x22 :: (bytesOf (text.toList.flatMap escapeChar) ++ 0x22 ::
        ([] ++ 0x3A :: bytesOf v.write)) := by
    rw [hwrite, writeText, bytesOf_append, bytesOf_cons, bytesOf_append, bytesOf_cons,
      List.append_assoc, List.append_assoc]
    rfl
  rw [hbytes, hnode, ← TextReading.content_between]
  exact .named isBlank_nil (isText_escaped text) (TextReading.after?_start text) isBlank_nil
    h.unpadded

/-- Written elements continue the elements before them, to the end of their list. -/
theorem spells_writeItems {items : List Value}
    (h : ∀ v ∈ items, Spells (.value v.node) (bytesOf v.write)) {before : List Node} {bytes : Bytes}
    (hbefore : Spells (.items before) bytes) :
    Spells (.value (.list (before ++ Value.itemNodes items) .closed))
      (0x5B :: (bytes ++ bytesOf (Value.writeItems false items))) := by
  induction items generalizing before bytes with
  | nil =>
    rw [Value.itemNodes, List.append_nil]
    exact .list hbefore
  | cons v items ih =>
    obtain ⟨hv, hitems⟩ := List.forall_mem_cons.mp h
    have hmore := ih hitems (.items hbefore hv.unpadded)
    have hwrite : bytesOf (Value.writeItems false (v :: items)) =
        0x2C :: (bytesOf v.write ++ bytesOf (Value.writeItems false items)) := by
      rw [Value.writeItems, bytesOf_append, bytesOf_append]
      rfl
    rw [hwrite, Value.itemNodes]
    simpa only [List.append_assoc, List.cons_append, List.nil_append] using hmore

/-- A written list spells its elements. -/
theorem spells_list {items : List Value}
    (h : ∀ v ∈ items, Spells (.value v.node) (bytesOf v.write)) :
    Spells (.value (Value.list items).node) (bytesOf (Value.list items).write) := by
  cases items with
  | nil => exact .emptyList isBlank_nil
  | cons v items =>
    obtain ⟨hv, hitems⟩ := List.forall_mem_cons.mp h
    have hwrite : bytesOf (Value.list (v :: items)).write =
        0x5B :: (bytesOf v.write ++ bytesOf (Value.writeItems false items)) := by
      rw [Value.write, Value.writeItems, bytesOf_cons, bytesOf_append, bytesOf_append]
      rfl
    rw [hwrite, Value.node, Value.itemNodes]
    exact spells_writeItems hitems (.item hv.unpadded)

/-- Written members continue the members before them, to the end of their object. -/
theorem spells_writeMembers {members : List (Name × Value)}
    (h : ∀ m ∈ members, Spells (.value m.2.node) (bytesOf m.2.write))
    {before : List (Option String × Node)} {bytes : Bytes}
    (hbefore : Spells (.members before) bytes) :
    Spells (.value (.object (before ++ Value.memberNodes members) .closed))
      (0x7B :: (bytes ++ bytesOf (Value.writeMembers false members))) := by
  induction members generalizing before bytes with
  | nil =>
    rw [Value.memberNodes, List.append_nil]
    exact .object hbefore
  | cons m members ih =>
    obtain ⟨name, v⟩ := m
    obtain ⟨hv, hmembers⟩ := List.forall_mem_cons.mp h
    have hmore := ih hmembers (.members hbefore (spells_member name hv))
    have hwrite : bytesOf (Value.writeMembers false ((name, v) :: members)) =
        0x2C :: (bytesOf (name.write ++ ':' :: v.write) ++
          bytesOf (Value.writeMembers false members)) := by
      have hcomma : String.utf8EncodeChar ',' = [0x2C] := rfl
      simp [Value.writeMembers, hcomma, bytesOf_cons]
    rw [hwrite, Value.memberNodes]
    simpa only [List.append_assoc, List.cons_append, List.nil_append] using hmore

/-- A written object spells its members. -/
theorem spells_object {members : List (Name × Value)}
    (h : ∀ m ∈ members, Spells (.value m.2.node) (bytesOf m.2.write)) :
    Spells (.value (Value.object members).node) (bytesOf (Value.object members).write) := by
  cases members with
  | nil => exact .emptyObject isBlank_nil
  | cons m members =>
    obtain ⟨name, v⟩ := m
    obtain ⟨hv, hmembers⟩ := List.forall_mem_cons.mp h
    have hwrite : bytesOf (Value.object ((name, v) :: members)).write =
        0x7B :: (bytesOf (name.write ++ ':' :: v.write) ++
          bytesOf (Value.writeMembers false members)) := by
      have hopen : String.utf8EncodeChar '\x7b' = [0x7B] := rfl
      simp [Value.write, Value.writeMembers, hopen, bytesOf_cons]
    rw [hwrite, Value.node, Value.memberNodes]
    exact spells_writeMembers hmembers (.member (spells_member name hv))

/-- A written value spells the tree that it is read as. -/
theorem Value.spells_write (v : Value) : Spells (.value v.node) (bytesOf v.write) :=
  match v with
  | .null => .null
  | .bool true => .isTrue
  | .bool false => .isFalse
  | .integer i => spells_integer i
  | .text content => spells_writeText content
  | .list items => spells_list fun v _ => v.spells_write
  | .object members => spells_object fun m _ => m.2.spells_write
termination_by v
decreasing_by
  · decreasing_tactic
  · rename_i hm
    have hmember := List.sizeOf_lt_of_mem hm
    have hvalue : sizeOf m.2 < sizeOf m := by
      cases m
      simp only [Prod.mk.sizeOf_spec]
      omega
    simp only [Value.object.sizeOf_spec]
    omega

theorem Value.spells_render (v : Value) : Spells (.padded v.node) (Utf8.encode v.render) := by
  rw [Value.render, encode_ofList]
  exact v.spells_write.unpadded

/-- A written document is read as the tree of its value, and nothing is left over. -/
theorem read_render (v : Value) : read (Utf8.encode v.render) = ⟨v.node, true⟩ :=
  read_of_spells v.spells_render

end TicketGrant.Json
