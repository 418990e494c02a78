import Mathlib.Data.List.Nodup
import TicketGrant.Codec
import TicketGrant.Proofs.Json.Members
import TicketGrant.Proofs.Json.Written

/-!
# Records undone

A record is written as an object and read field by field. `Value.Says` joins the two sides for one
value: it can be written, and a decoder makes a certain thing of what was written. Lists keep it, and
records keep it if each field is found again (`Record.Finds`): under its own name if it was
written, as its default if it was left out.
-/
namespace TicketGrant.Json

/-! ### What a written value says -/

/-- A value can be written, and to a decoder it says `a`. -/
structure Value.Says {α : Type} (v : Value) (decoder : Decoder α) (a : α) : Prop where
  whole : v.fault? = none
  decode_eq : decoder v.node = .ok a

/-- What a value says, its text says. -/
theorem Value.Says.decode_render {α : Type} {v : Value} {decoder : Decoder α} {a : α}
    (h : v.Says decoder a) : Json.decode decoder (Utf8.encode v.render) = .ok a := by
  rw [Json.decode, read_render, h.decode_eq]
  rfl

/-- What a value says, its document says. -/
theorem Value.Says.exists_encode {α : Type} {v : Value} {decoder : Decoder α} {a : α}
    (h : v.Says decoder a) :
    ∃ text, Json.encode v = .ok text ∧
      Codec.plain.decode decoder (Utf8.encode text) = .ok a := by
  refine ⟨v.render, ?_, Codec.plain_decode_eq_ok_iff.mpr h.decode_render⟩
  rw [Json.encode, h.whole]

theorem Value.says_text (content : String) : (Value.text content).Says .text content := ⟨rfl, rfl⟩

theorem Value.says_bool (value : Bool) : (Value.bool value).Says .bool value := ⟨rfl, rfl⟩

theorem Value.says_integer {low high value : Int} (h : low ≤ value ∧ value ≤ high) :
    (Value.integer value).Says (.integer low high) value :=
  ⟨rfl, if_pos h⟩

@[simp] theorem Value.fault?_text (content : String) : (Value.text content).fault? = none := rfl

@[simp] theorem Value.fault?_bool (value : Bool) : (Value.bool value).fault? = none := rfl

@[simp] theorem Value.fault?_integer (value : Int) : (Value.integer value).fault? = none := rfl

/-- A decoder may turn what a value says into something else. -/
theorem Value.Says.map {α β : Type} {v : Value} {decoder : Decoder α} {a : α}
    (h : v.Says decoder a) (f : α → β) : v.Says (fun node => (decoder node).map f) (f a) :=
  ⟨h.whole, congrArg (Except.map f) h.decode_eq⟩

theorem Value.Says.filterMap {α β : Type} {v : Value} {decoder : Decoder α} {a : α}
    (h : v.Says decoder a) {f : α → Option β} {b : β} (hf : f a = some b) :
    v.Says (decoder.filterMap f) b := by
  refine ⟨h.whole, ?_⟩
  rw [Decoder.filterMap, h.decode_eq]
  dsimp only [bind, Except.bind]
  rw [hf]

/-- A text is not `null`. -/
theorem Value.Says.nullable {α : Type} {content : String} {decoder : Decoder α} {a : α}
    (h : (Value.text content).Says decoder a) :
    (Value.text content).Says decoder.nullable (some a) :=
  ⟨rfl, congrArg (Except.map some) h.decode_eq⟩

/-! ### Lists -/

theorem Value.itemsFault?_eq_none {items : List Value} (h : ∀ v ∈ items, v.fault? = none)
    (position : Nat) : Value.itemsFault? position items = none := by
  induction items generalizing position with
  | nil => rfl
  | cons v items ih =>
    obtain ⟨hv, hitems⟩ := List.forall_mem_cons.mp h
    rw [Value.itemsFault?, hv]
    exact ih hitems (position + 1)

theorem Decoder.items_itemNodes {α : Type} {decoder : Decoder α} {toJson : α → Value}
    {values : List α} (h : ∀ a ∈ values, (toJson a).Says decoder a) (position : Nat) :
    Decoder.items decoder position (Value.itemNodes (values.map toJson)) = .ok values := by
  induction values generalizing position with
  | nil => rfl
  | cons a values ih =>
    obtain ⟨ha, hvalues⟩ := List.forall_mem_cons.mp h
    rw [List.map_cons, Value.itemNodes, Decoder.items, ha.decode_eq, ih hvalues]
    rfl

/-- A list says what its elements say. -/
theorem Value.says_list {α : Type} {decoder : Decoder α} {toJson : α → Value} {values : List α}
    (h : ∀ a ∈ values, (toJson a).Says decoder a) :
    (Value.list (values.map toJson)).Says (.list decoder) values where
  whole := by
    refine Value.itemsFault?_eq_none (fun v hv => ?_) 0
    obtain ⟨a, ha, rfl⟩ := List.mem_map.mp hv
    exact (h a ha).whole
  decode_eq := by
    rw [Value.node, Decoder.list, Decoder.items_itemNodes h]
    rfl

theorem Value.says_texts (values : List String) :
    (Value.texts values).Says (.list .text) values :=
  Value.says_list fun content _ => Value.says_text content

@[simp] theorem Value.fault?_texts (values : List String) : (Value.texts values).fault? = none :=
  (Value.says_texts values).whole

/-! ### Members

A value that may be missing is a member or none. -/

theorem lookup_cons_eq_ite (name other : String) (v : Value) (rest : List (String × Value)) :
    ((name, v) :: rest).lookup other = if other = name then some v else rest.lookup other := by
  rw [List.lookup_cons]
  by_cases h : other = name
  · simp [h]
  · simp [h, beq_false_of_ne h]

theorem lookup_optional {α : Type} (name other : String) (a : Option α) (toJson : α → Value) :
    (a.toList.map fun a => (name, toJson a)).lookup other =
      if other = name then a.map toJson else none := by
  cases a with
  | none => simp
  | some a => rw [Option.toList_some, List.map_singleton, lookup_cons_eq_ite]; rfl

theorem names_optional_sublist {α : Type} (name : String) (a : Option α) (toJson : α → Value) :
    ((a.toList.map fun a => (name, toJson a)).map (·.1)).Sublist [name] := by
  cases a with
  | none => exact List.nil_sublist _
  | some a => exact List.Sublist.refl _

/-! ### Records -/

/-- What a written value leaves to be read is whole. -/
theorem Value.isSound_node (v : Value) : v.node.isSound = true := by
  cases v <;> rfl

theorem Value.fault?_record {members : List (String × Value)}
    (h : ∀ m ∈ members, m.2.fault? = none) : (Value.record members).fault? = none := by
  rw [Value.record, Value.fault?]
  induction members with
  | nil => rfl
  | cons m members ih =>
    obtain ⟨hm, hmembers⟩ := List.forall_mem_cons.mp h
    rw [List.map_cons, Value.membersFault?, hm]
    exact ih hmembers

theorem Value.memberNodes_record (members : List (String × Value)) :
    Value.memberNodes (members.map fun m => (Name.text m.1, m.2)) =
      members.map fun m => (some m.1, m.2.node) := by
  induction members with
  | nil => rfl
  | cons m members ih => rw [List.map_cons, Value.memberNodes, ih, List.map_cons, Name.node]

theorem lookup_of_mem {α β : Type} [BEq α] [LawfulBEq α] {entries : List (α × β)}
    (hnodup : (entries.map (·.1)).Nodup) {entry : α × β} (h : entry ∈ entries) :
    entries.lookup entry.1 = some entry.2 := by
  induction entries with
  | nil => simp at h
  | cons first entries ih =>
    obtain ⟨hfirst, hentries⟩ := List.nodup_cons.mp hnodup
    rcases List.mem_cons.mp h with rfl | hmem
    · exact List.lookup_cons_self
    · have hne : entry.1 ≠ first.1 := fun heq => hfirst (List.mem_map.mpr ⟨entry, hmem, heq⟩)
      rw [List.lookup_cons, beq_false_of_ne hne]
      exact ih hentries hmem

/-- A record is found in an object: what is written for a field passes for that field, and the
fields make up `a`. -/
structure Record.Finds {α : Type} (record : Record α) (members : List (String × Value)) (a : α) :
    Prop where
  check_eq : ∀ slot ∈ record.slots, ∀ v, members.lookup slot.name = some v →
    slot.check v.node = .ok ()
  build_eq : record.build (fun name => (members.lookup name).map Value.node) = .ok a

namespace Record

variable {α β : Type} {members : List (String × Value)}

theorem Finds.map {record : Record α} {a : α} (h : record.Finds members a) (f : α → β) :
    (f <$> record).Finds members (f a) := by
  refine ⟨h.check_eq, ?_⟩
  change (record.build _ >>= fun a => Except.ok (f a)) = Except.ok (f a)
  rw [h.build_eq]
  rfl

theorem Finds.seq {record : Record (α → β)} {other : Record α} {f : α → β} {a : α}
    (hf : record.Finds members f) (ha : other.Finds members a) :
    (record <*> other).Finds members (f a) := by
  refine ⟨fun slot hslot v hv => ?_, ?_⟩
  · rcases List.mem_append.mp hslot with hslot | hslot
    · exact hf.check_eq slot hslot v hv
    · exact ha.check_eq slot hslot v hv
  · rw [build_seq, hf.build_eq, ha.build_eq]
    rfl

/-- A field that was written is found. -/
theorem finds_field {name : String} {decoder : Decoder α} {absent : Option α} {elidable : Bool}
    {v : Value} {a : α} (hlookup : members.lookup name = some v) (h : v.Says decoder a) :
    (field name decoder absent elidable).Finds members a := by
  refine ⟨fun slot hslot w hw => ?_, ?_⟩
  · rw [List.mem_singleton.mp hslot] at hw ⊢
    cases hlookup.symm.trans hw
    exact congrArg (Except.map fun _ => ()) h.decode_eq
  · simp only [field, hlookup, Option.map_some]
    exact h.decode_eq

/-- A field that was left out is found as its default. -/
theorem finds_field_of_absent {name : String} {decoder : Decoder α} {elidable : Bool} {a : α}
    (hlookup : members.lookup name = none) :
    (field name decoder (some a) elidable).Finds members a := by
  refine ⟨fun slot hslot w hw => ?_, ?_⟩
  · rw [List.mem_singleton.mp hslot] at hw
    cases hlookup.symm.trans hw
  · simp only [field, hlookup, Option.map_none]

/-- A text that is written if it is there is found as it was. -/
theorem finds_nullable {name : String} {decoder : Decoder α} {elidable : Bool} {write : α → String}
    {a : Option α} (hlookup : members.lookup name = a.map fun a => .text (write a))
    (h : ∀ b, a = some b → (Value.text (write b)).Says decoder b) :
    (field name decoder.nullable (some none) elidable).Finds members a := by
  cases a with
  | none => exact finds_field_of_absent hlookup
  | some b => exact finds_field hlookup (h b rfl).nullable

theorem finds_nullable_text {name : String} {elidable : Bool} {a : Option String}
    (hlookup : members.lookup name = a.map .text) :
    (field name Decoder.text.nullable (some none) elidable).Finds members a :=
  finds_nullable hlookup fun content _ => Value.says_text content

theorem lookup_nodes (name : String) :
    lookup (members.map fun m => (some m.1, m.2.node)) name =
      (members.lookup name).map Value.node := by
  induction members with
  | nil => rfl
  | cons m members ih =>
    rw [lookup, List.map_cons, List.find?_cons, List.lookup_cons]
    by_cases hname : name = m.1
    · simp [hname]
    · have hne : (some m.1 == some name) = false := by simpa using Ne.symm hname
      have hne' : (name == m.1) = false := by simpa using hname
      simp only [hne, hne']
      exact ih

/-- An object takes the members of a written record, if the names are distinct. -/
theorem accepts_nodes {slots : List Slot} (hnodup : (members.map (·.1)).Nodup)
    (hcheck : ∀ m ∈ members, ∀ slot ∈ slots, slot.name = m.1 → slot.check m.2.node = .ok ()) :
    Accepts slots (members.map fun m => (some m.1, m.2.node)) where
  admits := by
    intro node hnode
    obtain ⟨m, hm, rfl⟩ := List.mem_map.mp hnode
    rw [Admits]
    split
    · rename_i slot hfind
      have hname : slot.name = m.1 := by simpa using List.find?_some hfind
      exact hcheck m hm slot (List.mem_of_find?_eq_some hfind) hname
    · exact m.2.isSound_node
  length_le := by
    intro slot _
    have hcount : (named (members.map fun m => (some m.1, m.2.node)) slot.name).length =
        (members.map (·.1)).count slot.name := by
      rw [named, ← List.countP_eq_length_filter, List.count, List.countP_map, List.countP_map]
      exact List.countP_congr fun m _ => by simp
    rw [hcount]
    exact List.nodup_iff_count_le_one.mp hnodup slot.name

end Record

/-- An object says the record that is found in it. -/
theorem Value.says_record {α : Type} {members : List (String × Value)} {record : Record α} {a : α}
    (hwhole : ∀ m ∈ members, m.2.fault? = none) (hnodup : (members.map (·.1)).Nodup)
    (hfinds : record.Finds members a) : (Value.record members).Says record.decode a where
  whole := Value.fault?_record hwhole
  decode_eq := by
    have haccepts : Record.Accepts record.slots (members.map fun m => (some m.1, m.2.node)) :=
      Record.accepts_nodes hnodup fun m hm slot hslot hname =>
        hfinds.check_eq slot hslot m.2 (hname ▸ lookup_of_mem hnodup hm)
    have hlookup : Record.lookup (members.map fun m => (some m.1, m.2.node)) =
        fun name => (members.lookup name).map Value.node := funext Record.lookup_nodes
    rw [Value.record, Value.node, Value.memberNodes_record]
    refine Record.decode_object_eq_ok_iff.mpr ⟨haccepts, ?_⟩
    rw [hlookup]
    exact hfinds.build_eq

end TicketGrant.Json
