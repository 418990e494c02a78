import TicketGrant.Proofs.Json.Members

/-!
# Where decoding stops

A decoder names the place of the first fault. In a list this is the first element that cannot be
decoded, with its index (`Decoder.items_of_fault`); in an object that a record takes but for one member
it is that member (`Record.decode_of_fault`), and the object itself if a field is missing
(`Record.decode_of_missing`).
-/
namespace TicketGrant.Json

variable {α β : Type} {place : Path}

/-! ### Elements -/

/-- Decoding goes through the elements until one cannot be decoded, and counts them. -/
theorem Decoder.items_of_fault {decoder : Decoder α} {front rest : List Node} {bad : Node}
    (hfront : ∀ node ∈ front, ∃ a, decoder node = .ok a) (hbad : decoder bad = .error place)
    (position : Nat) :
    Decoder.items decoder position (front ++ bad :: rest) =
      .error (.index (position + front.length) :: place) := by
  induction front generalizing position with
  | nil =>
    rw [List.nil_append, Decoder.items, hbad]
    rfl
  | cons node front ih =>
    obtain ⟨⟨a, ha⟩, hfront⟩ := List.forall_mem_cons.mp hfront
    have hposition : position + 1 + front.length = position + (front.length + 1) := by omega
    rw [List.cons_append, Decoder.items, ha, ih hfront, hposition]
    rfl

/-- A partial function that finds nothing is at fault in the value itself. -/
theorem Decoder.filterMap_of_none {decoder : Decoder α} {f : α → Option β} {node : Node} {a : α}
    (hnode : decoder node = .ok a) (hf : f a = none) : decoder.filterMap f node = .error [] := by
  rw [Decoder.filterMap, hnode]
  dsimp only [bind, Except.bind]
  rw [hf]

theorem Decoder.filterMap_of_error {decoder : Decoder α} {f : α → Option β} {node : Node}
    (hnode : decoder node = .error place) : decoder.filterMap f node = .error place := by
  rw [Decoder.filterMap, hnode]
  rfl

/-! ### Members -/

namespace Record

variable {slots : List Slot} {seen : List String} {name : String} {good bad : Node} {slot : Slot}
  {before after : List (Option String × Node)}

theorem checkMembers_cons_of_slot (hslot : slots.find? (·.name == name) = some slot) (node : Node)
    (rest : List (Option String × Node)) :
    checkMembers slots seen ((some name, node) :: rest) =
      if seen.contains name then .error []
      else (do
        Decoder.inside (.key name) (slot.check node)
        checkMembers slots (name :: seen) rest) := by
  simp only [checkMembers, hslot]

/-- A member that passes is left behind, whatever follows it. -/
theorem exists_seen_of_checkMembers_cons {m : Option String × Node}
    {rest : List (Option String × Node)} (h : checkMembers slots seen (m :: rest) = .ok ()) :
    ∃ seen', ∀ rest, checkMembers slots seen (m :: rest) = checkMembers slots seen' rest := by
  rcases m with ⟨_ | name, node⟩
  · cases h
  cases hslot : slots.find? (·.name == name) with
  | none =>
    cases hsound : node.isSound with
    | false => simp [checkMembers, hslot, hsound] at h
    | true => exact ⟨seen, fun rest => by simp [checkMembers, hslot, hsound]⟩
  | some slot =>
    rw [checkMembers_cons_of_slot hslot] at h
    split at h
    · cases h
    · rename_i hseen
      cases hcheck : slot.check node with
      | error place =>
        rw [hcheck] at h
        cases h
      | ok _ =>
        refine ⟨name :: seen, fun rest => ?_⟩
        rw [checkMembers_cons_of_slot hslot, if_neg hseen, hcheck]
        rfl

/-- Checking goes through the members until a field fails its own check. -/
theorem checkMembers_of_fault (hslot : slots.find? (·.name == name) = some slot)
    (hbad : slot.check bad = .error place)
    (h : checkMembers slots seen (before ++ (some name, good) :: after) = .ok ()) :
    checkMembers slots seen (before ++ (some name, bad) :: after) =
      .error (.key name :: place) := by
  induction before generalizing seen with
  | nil =>
    rw [List.nil_append, checkMembers_cons_of_slot hslot] at h ⊢
    split at h
    · cases h
    · rename_i hseen
      rw [if_neg hseen, hbad]
      rfl
  | cons m before ih =>
    obtain ⟨seen', hseen'⟩ := exists_seen_of_checkMembers_cons h
    rw [List.cons_append, hseen'] at h ⊢
    exact ih h

/-- If a record takes an object with another value for a field, that field is where it stops. -/
theorem decode_of_fault {record : Record α} {a : α}
    (hslot : record.slots.find? (·.name == name) = some slot) (hbad : slot.check bad = .error place)
    (h : record.decode (.object (before ++ (some name, good) :: after) .closed) = .ok a) :
    record.decode (.object (before ++ (some name, bad) :: after) .closed) =
      .error (.key name :: place) := by
  have hcheck := checkMembers_nil_eq_ok_iff.mpr (decode_object_eq_ok_iff.mp h).1
  rw [decode, checkMembers_of_fault hslot hbad hcheck]
  rfl

/-! ### Missing members -/

/-- A record needs a field: what can be built with it cannot be built without it. -/
def Needs (record : Record α) (name : String) : Prop :=
  ∀ find other a, record.build find = .ok a → other name = none →
    (∀ slot ∈ record.slots, slot.name ≠ name → other slot.name = find slot.name) →
    record.build other = .error []

theorem needs_required (name : String) (decoder : Decoder α) :
    (required name decoder).Needs name := fun find other a _ hmissing _ => by
  simp only [required, field, hmissing]

theorem Needs.seq {record : Record (α → β)} {argument : Record α} (h : record.Needs name) :
    (record <*> argument).Needs name := fun find other b hbuild hmissing hsame => by
  obtain ⟨f, a, hf, -, -⟩ := exists_of_build_seq hbuild
  have hother := h find other f hf hmissing fun slot hslot =>
    hsame slot (List.mem_append_left _ hslot)
  rw [build_seq, hother]
  rfl

/-- The fields in front do not need it. -/
theorem Needs.of_argument {record : Record (α → β)} {argument : Record α} (h : argument.Needs name)
    (hlocal : record.IsLocal) (hname : ∀ slot ∈ record.slots, slot.name ≠ name) :
    (record <*> argument).Needs name := fun find other b hbuild hmissing hsame => by
  obtain ⟨f, a, hf, ha, -⟩ := exists_of_build_seq hbuild
  have hrecord : record.build other = .ok f := by
    rw [← hf]
    exact hlocal other find fun slot hslot =>
      hsame slot (List.mem_append_left _ hslot) (hname slot hslot)
  have hargument := h find other a ha hmissing fun slot hslot =>
    hsame slot (List.mem_append_right _ hslot)
  rw [build_seq, hrecord, hargument]
  rfl

theorem Needs.map {record : Record α} (h : record.Needs name) (f : α → β) :
    (f <$> record).Needs name :=
  h.of_argument (isLocal_pure f) (List.forall_mem_nil _)

theorem named_append (members others : List (Option String × Node)) (name : String) :
    named (members ++ others) name = named members name ++ named others name :=
  List.filter_append _ _

/-- An object may lack any member. -/
theorem Accepts.erase (h : Accepts slots (before ++ (some name, good) :: after)) :
    Accepts slots (before ++ after) := by
  have hsublist : (before ++ after).Sublist (before ++ (some name, good) :: after) :=
    (List.Sublist.refl before).append (List.sublist_cons_self _ _)
  refine ⟨fun m hm => h.admits m (hsublist.subset hm), fun slot hslot => ?_⟩
  exact Nat.le_trans (hsublist.filter _).length_le (h.length_le slot hslot)

/-- A field that is taken away is not found any more. -/
theorem Accepts.lookup_erase_self (h : Accepts slots (before ++ (some name, good) :: after))
    (hname : name ∈ slots.map (·.name)) : lookup (before ++ after) name = none := by
  obtain ⟨slot, hslot, rfl⟩ := List.mem_map.mp hname
  have hle := h.length_le slot hslot
  rw [named_append, named_cons_self, List.length_append, List.length_cons] at hle
  have hnone : named (before ++ after) slot.name = [] := by
    rw [← List.length_eq_zero_iff, named_append, List.length_append]
    omega
  rw [lookup_eq_head?, hnone]
  rfl

theorem lookup_erase_of_ne {other : String} (h : other ≠ name) :
    lookup (before ++ after) other = lookup (before ++ (some name, good) :: after) other := by
  rw [lookup_eq_head?, lookup_eq_head?, named_append, named_append, named_cons_of_ne h.symm]

/-- If a record takes an object with a field that it needs, it stops at the object without it. -/
theorem decode_of_missing {record : Record α} {a : α} (hneeds : record.Needs name)
    (hname : name ∈ record.slots.map (·.name))
    (h : record.decode (.object (before ++ (some name, good) :: after) .closed) = .ok a) :
    record.decode (.object (before ++ after) .closed) = .error [] := by
  obtain ⟨haccepts, hbuild⟩ := decode_object_eq_ok_iff.mp h
  have hmissing := hneeds _ (lookup (before ++ after)) a hbuild (haccepts.lookup_erase_self hname)
    fun slot _ hne => lookup_erase_of_ne hne
  rw [decode, checkMembers_nil_eq_ok_iff.mpr haccepts.erase, ← hmissing]
  rfl

end Record
end TicketGrant.Json
