import Mathlib.Data.List.Basic
import Mathlib.Data.List.Nodup
import TicketGrant.Json.Decoder

/-!
# What a record takes

A record takes an object when each of its members may stand there and no field stands twice
(`decode_object_eq_ok_iff`). Neither says anything about the order of the members, and the record is
built from the fields alone; so members may be moved, and members that are no fields may be put among
them (`toOption_decode_of_perm`). It takes a list when its elements are fields in their order, and those
that are missing may be (`checkItems_eq_ok_iff`).
-/
namespace TicketGrant.Json.Record

/-- The members of an object that have a name. -/
def named (members : List (Option String × Node)) (name : String) : List (Option String × Node) :=
  members.filter (·.1 == some name)

/-- A member may stand in an object: a field passes its own check, and anything else is whole. -/
def Admits (slots : List Slot) : Option String × Node → Prop
  | (none, _) => False
  | (some name, node) =>
    match slots.find? (·.name == name) with
    | some slot => slot.check node = .ok ()
    | none => node.isSound = true

/-- No field stands twice, nor once if it was seen before. -/
def Limits (slots : List Slot) (seen : List String) (members : List (Option String × Node)) : Prop :=
  ∀ slot ∈ slots, (named members slot.name).length ≤ if slot.name ∈ seen then 0 else 1

/-- Every member may stand in the object, and no field stands twice. -/
structure Accepts (slots : List Slot) (members : List (Option String × Node)) : Prop where
  admits : ∀ m ∈ members, Admits slots m
  length_le : ∀ slot ∈ slots, (named members slot.name).length ≤ 1

variable {α β : Type} {slots : List Slot} {seen : List String} {name : String} {node : Node}
  {members inserted other : List (Option String × Node)}

/-! ### One member after the other -/

theorem named_cons_self (name : String) (node : Node) (members : List (Option String × Node)) :
    named ((some name, node) :: members) name = (some name, node) :: named members name := by
  simp [named]

theorem named_cons_of_ne {name' : String} (h : name ≠ name') :
    named ((some name, node) :: members) name' = named members name' := by
  simp [named, h]

theorem limits_cons_of_undeclared (h : ∀ slot ∈ slots, slot.name ≠ name) :
    Limits slots seen ((some name, node) :: members) ↔ Limits slots seen members :=
  forall₂_congr fun slot hslot => by rw [named_cons_of_ne (h slot hslot).symm]

/-- A field that was not seen before has been seen from then on. -/
theorem limits_cons_of_fresh (h : name ∉ seen) :
    Limits slots seen ((some name, node) :: members) ↔ Limits slots (name :: seen) members := by
  refine forall₂_congr fun slot hslot => ?_
  by_cases heq : name = slot.name
  · rw [← heq, named_cons_self, if_neg h, if_pos List.mem_cons_self, List.length_cons,
      Nat.succ_le_succ_iff]
  · rw [named_cons_of_ne heq]
    simp [Ne.symm heq]

theorem not_limits_cons_of_seen {slot : Slot} (hslot : slot ∈ slots) (h : slot.name ∈ seen) :
    ¬ Limits slots seen ((some slot.name, node) :: members) := fun hlimits => by
  have hle := hlimits slot hslot
  rw [named_cons_self, if_pos h] at hle
  exact Nat.not_succ_le_zero _ hle

/-- The members pass if each may stand there, and none of them is a field that was seen before. -/
theorem checkMembers_eq_ok_iff :
    checkMembers slots seen members = .ok () ↔
      (∀ m ∈ members, Admits slots m) ∧ Limits slots seen members := by
  induction members generalizing seen with
  | nil => simp [checkMembers, Limits, named]
  | cons m members ih =>
    rcases m with ⟨_ | name, node⟩
    · simp [checkMembers, Admits]
    · rw [List.forall_mem_cons, checkMembers, Admits]
      cases hfind : slots.find? (·.name == name) with
      | none =>
        have hother (slot : Slot) (hslot : slot ∈ slots) : slot.name ≠ name := by
          simpa using List.find?_eq_none.mp hfind slot hslot
        rw [limits_cons_of_undeclared hother]
        by_cases hsound : node.isSound = true
        · simp only [hsound, if_true, ih, true_and]
        · simp [hsound]
      | some slot =>
        have hslot := List.mem_of_find?_eq_some hfind
        obtain rfl : slot.name = name := by simpa using List.find?_some hfind
        by_cases hseen : slot.name ∈ seen
        · simp [hseen, not_limits_cons_of_seen hslot hseen]
        · have hnotin : seen.contains slot.name = false := by simpa using hseen
          simp only [limits_cons_of_fresh hseen, hnotin, Bool.false_eq_true, if_false]
          cases hcheck : slot.check node with
          | error place => simp [Decoder.inside, Except.mapError, bind, Except.bind]
          | ok _ => simp only [Decoder.inside, Except.mapError, bind, Except.bind, ih, true_and]

theorem checkMembers_nil_eq_ok_iff :
    checkMembers slots [] members = .ok () ↔ Accepts slots members := by
  rw [checkMembers_eq_ok_iff]
  exact ⟨fun ⟨hadmits, hle⟩ => ⟨hadmits, hle⟩, fun h => ⟨h.admits, h.length_le⟩⟩

/-- What a record makes of an object. -/
theorem decode_object_eq_ok_iff {record : Record α} {a : α} :
    record.decode (.object members .closed) = .ok a ↔
      Accepts record.slots members ∧ record.build (lookup members) = .ok a := by
  rw [← checkMembers_nil_eq_ok_iff, decode]
  cases checkMembers record.slots [] members with
  | ok _ => simp [Decoder.endingFault?, bind, Except.bind]
  | error place => simp [bind, Except.bind]

/-- What an object takes of whole members: they have names, and each field stands once at most and passes
its own check. -/
theorem accepts_iff (hnodup : (slots.map (·.name)).Nodup)
    (hsound : ∀ m ∈ members, m.2.isSound = true) :
    Accepts slots members ↔
      (∀ m ∈ members, m.1 ≠ none) ∧
        ∀ slot ∈ slots, (named members slot.name).length ≤ 1 ∧
          ∀ m ∈ named members slot.name, slot.check m.2 = .ok () := by
  have hfind {slot : Slot} (hslot : slot ∈ slots) :
      slots.find? (·.name == slot.name) = some slot := by
    cases hfound : slots.find? (·.name == slot.name) with
    | none => simpa using List.find?_eq_none.mp hfound slot hslot
    | some other =>
      have hname : other.name = slot.name := by simpa using List.find?_some hfound
      rw [List.inj_on_of_nodup_map hnodup (List.mem_of_find?_eq_some hfound) hslot hname]
  constructor
  · refine fun h => ⟨?names, fun slot hslot => ⟨h.length_le slot hslot, fun m hm => ?check⟩⟩
    case names =>
      rintro ⟨_ | name, node⟩ hm
      · exact (h.admits _ hm).elim
      · exact Option.some_ne_none name
    case check =>
      obtain ⟨hmem, hname⟩ := List.mem_filter.mp hm
      obtain ⟨name, node⟩ := m
      obtain rfl : name = some slot.name := by simpa using hname
      have hadmits := h.admits _ hmem
      rwa [Admits, hfind hslot] at hadmits
  · rintro ⟨hnames, hfields⟩
    refine ⟨?_, fun slot hslot => (hfields slot hslot).1⟩
    rintro ⟨_ | name, node⟩ hm
    · exact absurd rfl (hnames _ hm)
    rw [Admits]
    split
    · rename_i slot hfound
      obtain rfl : slot.name = name := by simpa using List.find?_some hfound
      refine (hfields slot (List.mem_of_find?_eq_some hfound)).2 _ (List.mem_filter.mpr ⟨hm, ?_⟩)
      simp
    · exact hsound _ hm

/-! ### Fields by their names -/

theorem lookup_eq_head? (members : List (Option String × Node)) (name : String) :
    lookup members name = (named members name).head?.map (·.2) := by
  rw [lookup, named, List.head?_filter]

/-- A field that is found is the only member of its name. -/
theorem Accepts.named_eq (h : Accepts slots members) (hname : name ∈ slots.map (·.name))
    (hlookup : lookup members name = some node) : named members name = [(some name, node)] := by
  rcases List.mem_map.mp hname with ⟨slot, hslot, rfl⟩
  have hle := h.length_le slot hslot
  rw [lookup_eq_head?] at hlookup
  cases hnamed : named members slot.name with
  | nil => simp [hnamed] at hlookup
  | cons m rest =>
    have hm : m ∈ named members slot.name := hnamed ▸ List.mem_cons_self
    have hfirst : m.1 = some slot.name := by simpa [named] using (List.mem_filter.mp hm).2
    rw [hnamed] at hlookup hle
    obtain rfl : rest = [] := List.length_eq_zero_iff.mp (by simpa using hle)
    obtain rfl : m.2 = node := by simpa using hlookup
    rw [← hfirst]

/-! ### What a record was built from -/

section Build
variable {find : String → Option Node}

/-- A field that has not its default was found. -/
theorem exists_of_build_field {decoder : Decoder α} {absent : Option α} {elidable : Bool} {a : α}
    (h : (field name decoder absent elidable).build find = .ok a) (habsent : absent ≠ some a) :
    ∃ node, find name = some node ∧ decoder node = .ok a := by
  cases hfind : find name with
  | some node =>
    simp only [field, hfind] at h
    exact ⟨node, rfl, h⟩
  | none =>
    cases absent with
    | some default =>
      simp only [field, hfind, Except.ok.injEq] at h
      exact absurd (congrArg some h) habsent
    | none => simp [field, hfind] at h

theorem build_seq (record : Record (α → β)) (argument : Record α) (find : String → Option Node) :
    (record <*> argument).build find = (do
      let f ← record.build find
      let a ← argument.build find
      Except.ok (f a)) := rfl

theorem exists_of_build_seq {record : Record (α → β)} {argument : Record α} {b : β}
    (h : (record <*> argument).build find = .ok b) :
    ∃ f a, record.build find = .ok f ∧ argument.build find = .ok a ∧ f a = b := by
  rw [build_seq] at h
  cases hrecord : record.build find with
  | error place => simp [hrecord, bind, Except.bind] at h
  | ok f =>
    cases hargument : argument.build find with
    | error place => simp [hrecord, hargument, bind, Except.bind] at h
    | ok a =>
      simp only [hrecord, hargument, bind, Except.bind, Except.ok.injEq] at h
      exact ⟨f, a, rfl, rfl, h⟩

theorem exists_of_build_map {f : α → β} {record : Record α} {b : β}
    (h : (f <$> record).build find = .ok b) : ∃ a, record.build find = .ok a ∧ f a = b := by
  rcases exists_of_build_seq h with ⟨g, a, hg, ha, rfl⟩
  cases hg
  exact ⟨a, ha, rfl⟩

/-- What is told by a field that may be missing: nothing if it is missing or `null`, else what its
node is decoded to. -/
def Tells (decoder : Decoder α) (found : Option Node) : Option α → Prop
  | none => found = none ∨ found = some .null
  | some a => ∃ node, found = some node ∧ decoder node = .ok a

theorem tells_of_build {decoder : Decoder α} {elidable : Bool} {value : Option α}
    (h : (field name decoder.nullable (some none) elidable).build find = .ok value) :
    Tells decoder (find name) value := by
  cases hfind : find name with
  | none =>
    simp only [field, hfind, Except.ok.injEq] at h
    rw [← h]
    exact .inl rfl
  | some node =>
    simp only [field, hfind] at h
    unfold Decoder.nullable at h
    split at h
    · cases h
      exact .inr rfl
    · cases hnode : decoder node with
      | error place => simp [hnode, Except.map] at h
      | ok a =>
        rw [hnode] at h
        cases h
        exact ⟨node, rfl, hnode⟩

end Build

/-- The node that a record finds under a name: a member of an object, or the element of a list in the
place of the field. -/
def found? (record : Record α) : Node → String → Option Node
  | .object members _ => lookup members
  | .list items _ => lookup ((record.slots.map (some ·.name)).zip items)
  | _ => fun _ => none

/-- A record is built from the nodes that it finds. -/
theorem build_of_decode {record : Record α} {a : α} (h : record.decode node = .ok a) :
    record.build (record.found? node) = .ok a := by
  cases node with
  | object members ending =>
    rw [decode] at h
    cases hcheck : checkMembers record.slots [] members with
    | error place => simp [hcheck, bind, Except.bind] at h
    | ok _ =>
      cases hending : Decoder.endingFault? ending with
      | some place => simp [hcheck, hending, bind, Except.bind] at h
      | none => simpa [found?, hcheck, hending, bind, Except.bind] using h
  | list items ending =>
    rw [decode] at h
    cases hcheck : checkItems record.slots 0 items with
    | error place => simp [hcheck, bind, Except.bind] at h
    | ok _ =>
      by_cases hending : ending = .closed
      · simpa [found?, hcheck, hending, bind, Except.bind] using h
      · simp [hcheck, hending, bind, Except.bind] at h
  | _ => cases h

/-! ### Texts that may be missing -/

/-- A text, or `null`. -/
def ofText : Option String → Node
  | none => .null
  | some content => .text (some content)

theorem nullable_text_eq_ok_iff {value : Option String} :
    Decoder.text.nullable node = .ok value ↔ node = ofText value := by
  constructor
  · intro h
    cases node with
    | null =>
      cases h
      rfl
    | text content =>
      cases content with
      | none => cases h
      | some content =>
        cases h
        rfl
    | _ => cases h
  · rintro rfl
    cases value <;> rfl

/-- Under a name, an object tells a text or nothing: one member at most has the name, and it is a text
or `null`. -/
def TellsText (members : List (Option String × Node)) (name : String) (value : Option String) :
    Prop :=
  named members name = [(some name, ofText value)] ∨ named members name = [] ∧ value = none

theorem exists_tellsText_iff :
    (∃ value, TellsText members name value) ↔
      (named members name).length ≤ 1 ∧
        ∀ m ∈ named members name, (Decoder.text.nullable m.2).map (fun _ => ()) = .ok () := by
  constructor
  · rintro ⟨value, hone | ⟨hnone, -⟩⟩
    · rw [hone]
      refine ⟨by simp, List.forall_mem_singleton.mpr ?_⟩
      rw [nullable_text_eq_ok_iff.mpr rfl]
      rfl
    · rw [hnone]
      exact ⟨by simp, List.forall_mem_nil _⟩
  · rintro ⟨hle, hcheck⟩
    cases hnamed : named members name with
    | nil => exact ⟨none, .inr ⟨hnamed, rfl⟩⟩
    | cons m rest =>
      have hm : m ∈ named members name := hnamed ▸ List.mem_cons_self
      have hname : m.1 = some name := by simpa [named] using (List.mem_filter.mp hm).2
      rw [hnamed] at hle
      obtain rfl : rest = [] := List.length_eq_zero_iff.mp (by simpa using hle)
      cases hnode : Decoder.text.nullable m.2 with
      | error place =>
        have hfails := hcheck m hm
        rw [hnode] at hfails
        cases hfails
      | ok value =>
        refine ⟨value, .inl ?_⟩
        rw [hnamed, ← hname, ← nullable_text_eq_ok_iff.mp hnode]

/-- What an object tells is what a field for it is built from. -/
theorem TellsText.build_eq {value : Option String} (h : TellsText members name value) :
    (optional name Decoder.text).build (lookup members) = .ok value := by
  rcases h with hone | ⟨hnone, rfl⟩
  · simp only [optional, field, lookup_eq_head?, hone, List.head?_cons, Option.map_some]
    exact nullable_text_eq_ok_iff.mpr rfl
  · simp only [optional, field, lookup_eq_head?, hnone, List.head?_nil, Option.map_none]

theorem TellsText.eq_some_iff {value : Option String} (h : TellsText members name value)
    (content : String) :
    value = some content ↔ named members name = [(some name, .text (some content))] := by
  rcases h with hone | ⟨hnone, rfl⟩
  · rw [hone]
    cases value <;> simp [ofText]
  · simp [hnone]

/-! ### The order of the members -/

/-- A record looks for the fields that it declares, and for nothing else. -/
def IsLocal (record : Record α) : Prop :=
  ∀ find other : String → Option Node, (∀ slot ∈ record.slots, find slot.name = other slot.name) →
    record.build find = record.build other

theorem isLocal_field (name : String) (decoder : Decoder α) (absent : Option α) (elidable : Bool) :
    (field name decoder absent elidable).IsLocal := fun find other h => by
  have hname : find name = other name := h _ (List.mem_singleton.mpr rfl)
  simp only [field, hname]

theorem isLocal_pure (a : α) : (pure a : Record α).IsLocal := fun _ _ _ => rfl

theorem IsLocal.seq {record : Record (α → β)} {argument : Record α} (hrecord : record.IsLocal)
    (hargument : argument.IsLocal) : (record <*> argument).IsLocal := fun find other h => by
  rw [build_seq, build_seq,
    hrecord find other fun slot hslot => h slot (List.mem_append_left _ hslot),
    hargument find other fun slot hslot => h slot (List.mem_append_right _ hslot)]

/-- A member that is skipped: it has a name that no field has, and is whole. -/
def Skips (slots : List Slot) (m : Option String × Node) : Prop :=
  ∃ name, m.1 = some name ∧ (∀ slot ∈ slots, slot.name ≠ name) ∧ m.2.isSound = true

theorem Skips.admits {m : Option String × Node} (h : Skips slots m) : Admits slots m := by
  obtain ⟨name', node⟩ := m
  obtain ⟨name, rfl, hother, hsound⟩ := h
  have hfind : slots.find? (·.name == name) = none :=
    List.find?_eq_none.mpr fun slot hslot => by simpa using hother slot hslot
  rw [Admits, hfind]
  exact hsound

/-- Moving members, and adding some that are skipped, leaves the members of a field as they are, up to
their order. -/
theorem named_perm (hperm : other.Perm (members ++ inserted))
    (hskips : ∀ m ∈ inserted, Skips slots m) {slot : Slot} (hslot : slot ∈ slots) :
    (named other slot.name).Perm (named members slot.name) := by
  have hinserted : named inserted slot.name = [] := by
    refine List.filter_eq_nil_iff.mpr fun m hm => ?_
    obtain ⟨name, hname, hother, -⟩ := hskips m hm
    simpa [hname] using (hother slot hslot).symm
  have hfilter := hperm.filter (·.1 == some slot.name)
  rw [List.filter_append] at hfilter
  change (named other slot.name).Perm (named members slot.name ++ named inserted slot.name) at hfilter
  rwa [hinserted, List.append_nil] at hfilter

theorem accepts_iff_of_perm (hperm : other.Perm (members ++ inserted))
    (hskips : ∀ m ∈ inserted, Skips slots m) : Accepts slots other ↔ Accepts slots members := by
  have hlength (slot : Slot) (hslot : slot ∈ slots) :
      (named other slot.name).length = (named members slot.name).length :=
    (named_perm hperm hskips hslot).length_eq
  constructor
  · intro h
    refine ⟨fun m hm => h.admits m (hperm.mem_iff.mpr (List.mem_append_left _ hm)),
      fun slot hslot => ?_⟩
    rw [← hlength slot hslot]
    exact h.length_le slot hslot
  · intro h
    refine ⟨fun m hm => ?_, fun slot hslot => ?_⟩
    · rcases List.mem_append.mp (hperm.mem_iff.mp hm) with hm | hm
      · exact h.admits m hm
      · exact (hskips m hm).admits
    · rw [hlength slot hslot]
      exact h.length_le slot hslot

/-- Where no field stands twice, the order of the members does not decide which one is found. -/
theorem lookup_eq_of_perm (hperm : other.Perm (members ++ inserted))
    (hskips : ∀ m ∈ inserted, Skips slots m) (h : Accepts slots members) {slot : Slot}
    (hslot : slot ∈ slots) : lookup other slot.name = lookup members slot.name := by
  have hnamed := named_perm hperm hskips hslot
  have hle := h.length_le slot hslot
  rw [lookup_eq_head?, lookup_eq_head?]
  rcases Nat.le_one_iff_eq_zero_or_eq_one.mp hle with hzero | hone
  · rw [List.length_eq_zero_iff.mp hzero] at hnamed ⊢
    rw [hnamed.eq_nil]
  · obtain ⟨m, hm⟩ := List.length_eq_one_iff.mp hone
    rw [hm] at hnamed ⊢
    rw [List.perm_singleton.mp hnamed]

/-- Moving members, and adding some that are skipped, changes neither whether an object is taken nor
what is made of it. -/
theorem toOption_decode_of_perm {record : Record α} (hlocal : record.IsLocal)
    (hperm : other.Perm (members ++ inserted)) (hskips : ∀ m ∈ inserted, Skips record.slots m) :
    (record.decode (.object other .closed)).toOption =
      (record.decode (.object members .closed)).toOption := by
  have hok (a : α) : record.decode (.object other .closed) = .ok a ↔
      record.decode (.object members .closed) = .ok a := by
    rw [decode_object_eq_ok_iff, decode_object_eq_ok_iff, accepts_iff_of_perm hperm hskips]
    refine and_congr_right fun haccepts => ?_
    rw [hlocal _ (lookup members) fun slot hslot => lookup_eq_of_perm hperm hskips haccepts hslot]
  cases hother : record.decode (.object other .closed) with
  | ok a => rw [(hok a).mp hother]
  | error place =>
    cases hmembers : record.decode (.object members .closed) with
    | ok a => cases hother.symm.trans ((hok a).mpr hmembers)
    | error place' => rfl

/-! ### Lists -/

/-- The elements pass if each passes as the field in its place, and the fields behind them may be
missing. -/
theorem checkItems_eq_ok_iff {position : Nat} {items : List Node} :
    checkItems slots position items = .ok () ↔
      items.length ≤ slots.length ∧ (∀ slot ∈ slots.drop items.length, slot.elidable = true) ∧
        ∀ field ∈ slots.zip items, field.1.check field.2 = .ok () := by
  induction items generalizing slots position with
  | nil =>
    cases slots with
    | nil => simp [checkItems]
    | cons slot slots =>
      have hitems : checkItems (slot :: slots) position [] =
          if (slot :: slots).all (·.elidable) then .ok () else .error [] := rfl
      rw [hitems]
      by_cases hall : (slot :: slots).all (·.elidable) = true
      · rw [if_pos hall]
        simpa using hall
      · rw [if_neg hall]
        simpa using hall
  | cons node items ih =>
    cases slots with
    | nil => simp [checkItems]
    | cons slot slots =>
      rw [checkItems, List.zip_cons_cons, List.forall_mem_cons]
      cases hcheck : slot.check node with
      | error place => simp [Decoder.inside, Except.mapError, bind, Except.bind]
      | ok _ =>
        simp only [Decoder.inside, Except.mapError, bind, Except.bind, ih, List.length_cons,
          List.drop_succ_cons, Nat.succ_le_succ_iff, true_and]

/-- What a record takes as a list passes its check. -/
theorem checkItems_of_decode {record : Record α} {items : List Node} {ending : Ending} {a : α}
    (h : record.decode (.list items ending) = .ok a) : checkItems record.slots 0 items = .ok () := by
  rw [decode] at h
  cases hcheck : checkItems record.slots 0 items with
  | ok _ => rfl
  | error place => simp [hcheck, bind, Except.bind] at h

/-- A record takes nothing but objects and lists, and only with their brackets. -/
theorem isSound_of_decode {record : Record α} {node : Node} {a : α}
    (h : record.decode node = .ok a) : node.isSound = true := by
  cases node with
  | object members ending =>
    cases ending with
    | closed => rfl
    | _ =>
      rw [decode] at h
      cases hcheck : checkMembers record.slots [] members <;>
        simp [hcheck, Decoder.endingFault?, bind, Except.bind] at h
  | list items ending =>
    by_cases hending : ending = .closed
    · rw [hending]
      rfl
    · rw [decode, if_neg hending] at h
      cases hcheck : checkItems record.slots 0 items <;> simp [hcheck, bind, Except.bind] at h
  | _ => cases h

end TicketGrant.Json.Record
