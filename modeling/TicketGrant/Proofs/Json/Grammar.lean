import TicketGrant.Proofs.Json.Tokens

/-!
# The grammar of documents

`Spells` is the grammar of JSON texts, without a reader: which bytes spell a value, a value with white
space around it, the elements of a list, and the members of an object. A document of the grammar is
read as the tree that it spells (`read_of_spells`): the reader goes through a phrase with whatever lists
and objects are open around it, and stands behind it at its end. Numerals are the one kind of value
that does not end by itself: only what follows shows that it is whole, and `Reader.Behind` leaves that
open.
-/
namespace TicketGrant.Json

/-- White space between tokens. -/
def IsBlank (bytes : Bytes) : Prop := ∀ b ∈ bytes, Reader.isSpace b = true

/-- A part of a document, with what it says. -/
inductive Phrase where
  | value (node : Node)
  /-- A value with white space around it. -/
  | padded (node : Node)
  /-- The elements of a list that is not empty. -/
  | items (nodes : List Node)
  | member (member : Option String × Node)
  /-- The members of an object that is not empty. -/
  | members (members : List (Option String × Node))

/-- The bytes spell the phrase. -/
inductive Spells : Phrase → Bytes → Prop
  | null : Spells (.value .null) [0x6E, 0x75, 0x6C, 0x6C]
  | isTrue : Spells (.value (.bool true)) [0x74, 0x72, 0x75, 0x65]
  | isFalse : Spells (.value (.bool false)) [0x66, 0x61, 0x6C, 0x73, 0x65]
  | numeral {bytes numeral} : IsNumeral bytes → Numeral.ofBytes? bytes = some numeral →
      Spells (.value (.number numeral.value?)) bytes
  | text {inner reading} : IsText inner → TextReading.start.after? inner = some reading →
      Spells (.value (.text reading.content)) (0x22 :: (inner ++ [0x22]))
  | emptyList {gap} : IsBlank gap → Spells (.value (.list [] .closed)) (0x5B :: (gap ++ [0x5D]))
  | list {nodes inner} : Spells (.items nodes) inner →
      Spells (.value (.list nodes .closed)) (0x5B :: (inner ++ [0x5D]))
  | emptyObject {gap} : IsBlank gap →
      Spells (.value (.object [] .closed)) (0x7B :: (gap ++ [0x7D]))
  | object {members inner} : Spells (.members members) inner →
      Spells (.value (.object members .closed)) (0x7B :: (inner ++ [0x7D]))
  | padded {node before bytes after} : IsBlank before → Spells (.value node) bytes →
      IsBlank after → Spells (.padded node) (before ++ (bytes ++ after))
  | item {node bytes} : Spells (.padded node) bytes → Spells (.items [node]) bytes
  | items {nodes node inner bytes} : Spells (.items nodes) inner → Spells (.padded node) bytes →
      Spells (.items (nodes ++ [node])) (inner ++ 0x2C :: bytes)
  | named {name reading node before gap bytes} : IsBlank before → IsText name →
      TextReading.start.after? name = some reading → IsBlank gap → Spells (.padded node) bytes →
      Spells (.member (reading.content, node))
        (before ++ 0x22 :: (name ++ 0x22 :: (gap ++ 0x3A :: bytes)))
  | member {member bytes} : Spells (.member member) bytes → Spells (.members [member]) bytes
  | members {members member inner bytes} : Spells (.members members) inner →
      Spells (.member member) bytes → Spells (.members (members ++ [member])) (inner ++ 0x2C :: bytes)

theorem isBlank_nil : IsBlank [] := by simp [IsBlank]

/-- White space around a value may be missing. -/
theorem Spells.unpadded {node : Node} {bytes : Bytes} (h : Spells (.value node) bytes) :
    Spells (.padded node) bytes := by
  simpa using Spells.padded isBlank_nil h isBlank_nil

/-- What a phrase spells is whole. -/
theorem Spells.isSound {node : Node} {bytes : Bytes} (h : Spells (.padded node) bytes) :
    node.isSound = true := by
  cases h with
  | padded _ hvalue _ => cases hvalue <;> rfl

theorem Spells.isSound_member {name : Option String} {node : Node} {bytes : Bytes}
    (h : Spells (.member (name, node)) bytes) : node.isSound = true := by
  cases h with
  | named _ _ _ _ hvalue => exact hvalue.isSound

theorem Spells.isSound_of_mem_members {members : List (Option String × Node)} {bytes : Bytes}
    (h : Spells (.members members) bytes) : ∀ m ∈ members, m.2.isSound = true := by
  generalize hphrase : Phrase.members members = phrase at h
  induction h generalizing members with
  | member hmember =>
    cases hphrase
    exact List.forall_mem_singleton.mpr hmember.isSound_member
  | members _ hmember ih =>
    cases hphrase
    exact List.forall_mem_append.mpr
      ⟨ih rfl, List.forall_mem_singleton.mpr hmember.isSound_member⟩
  | _ => cases hphrase

theorem Spells.isSound_of_mem {members : List (Option String × Node)} {body : Bytes}
    (h : Spells (.padded (.object members .closed)) body) : ∀ m ∈ members, m.2.isSound = true := by
  cases h with
  | padded _ hvalue _ =>
    cases hvalue with
    | emptyObject => exact List.forall_mem_nil _
    | object hmembers => exact hmembers.isSound_of_mem_members

/-! ### The reader between tokens -/

namespace Reader

@[simp] theorem run_nil (r : Reader) : r.run [] = r := rfl

@[simp] theorem run_cons (r : Reader) (b : UInt8) (rest : Bytes) :
    r.run (b :: rest) = (r.step b).run rest := rfl

@[simp] theorem run_append (r : Reader) (xs ys : Bytes) : r.run (xs ++ ys) = (r.run xs).run ys :=
  List.foldl_append

variable {stack : List Frame} {r : Reader} {gap : Bytes}

/-- In a mode that keeps some state, bytes that lead on change that state only. -/
theorem run_of_foldlM {σ : Type} {next? : σ → UInt8 → Option σ} (mode : σ → Mode)
    (hstep : ∀ s b t, next? s b = some t → (⟨stack, mode s⟩ : Reader).step b = ⟨stack, mode t⟩)
    {s t : σ} {bytes : Bytes} (h : bytes.foldlM next? s = some t) :
    (⟨stack, mode s⟩ : Reader).run bytes = ⟨stack, mode t⟩ := by
  induction bytes generalizing s with
  | nil =>
    cases h
    rfl
  | cons b rest ih =>
    rw [List.foldlM_cons, Option.bind_eq_bind, Option.bind_eq_some_iff] at h
    obtain ⟨next, hnext, hrest⟩ := h
    rw [run_cons, hstep s b next hnext, ih hrest]

theorem run_text {t u : TextReading} {bytes : Bytes} (h : t.after? bytes = some u) :
    (⟨stack, .text t⟩ : Reader).run bytes = ⟨stack, .text u⟩ := by
  refine run_of_foldlM .text (fun s b next hnext => ?_) h
  simp only [step, TextReading.next?_eq_some_iff.mp hnext]

theorem run_name {t u : TextReading} {bytes : Bytes} (h : t.after? bytes = some u) :
    (⟨stack, .name t⟩ : Reader).run bytes = ⟨stack, .name u⟩ := by
  refine run_of_foldlM .name (fun s b next hnext => ?_) h
  simp only [step, TextReading.next?_eq_some_iff.mp hnext]

theorem run_numeral {n m : Numeral} {bytes : Bytes} (h : n.after? bytes = some m) :
    (⟨stack, .numeral n⟩ : Reader).run bytes = ⟨stack, .numeral m⟩ := by
  refine run_of_foldlM .numeral (fun s b next hnext => ?_) h
  simp only [step, Numeral.next?_eq_some_iff.mp hnext]

theorem beginValue_of_start? {b : UInt8} {n : Numeral} (h : Numeral.start? b = some n) :
    beginValue stack b = ⟨stack, .numeral n⟩ := by
  have hsome : (Numeral.start? b).isSome = true := by rw [h]; rfl
  unfold beginValue
  split
  case h_7 => rw [h]
  all_goals exact absurd hsome (by decide)

/-- The reader stands behind a value: whatever cannot belong to a numeral is read as what comes after
that value, and the value may be the last one. -/
structure Behind (stack : List Frame) (value : Node) (r : Reader) : Prop where
  step_eq : ∀ b, Numeral.isPart b = false → r.step b = afterValue (complete stack value) b
  finish_eq : r.finish = (complete stack value).finish

theorem behind_complete (value : Node) : Behind stack value (complete stack value) := by
  constructor
  · intro b _
    rcases stack with _ | ⟨_ | _ | _, rest⟩ <;> rfl
  · rfl

theorem behind_numeral {n : Numeral} (h : n.isWhole = true) :
    Behind stack (.number n.value?) ⟨stack, .numeral n⟩ := by
  constructor
  · intro b hb
    simp only [step, Numeral.step_of_isWhole h hb]
  · simp only [finish, h, if_true]
    rcases stack with _ | ⟨_ | _ | _, rest⟩ <;> rfl

/-- A byte with which a value can begin. -/
abbrev Begins (b : UInt8) : Prop := isSpace b = false ∧ b ≠ 0x5D

/-- A value is read from its first byte on, with whatever is open around it. -/
def Reads (bytes : Bytes) (value : Node) : Prop :=
  ∀ stack, ∃ b rest, bytes = b :: rest ∧ Begins b ∧
    Behind stack value ((beginValue stack b).run rest)

/-- A numeral can begin a value. -/
theorem begins_of_start? {b : UInt8} {n : Numeral} (h : Numeral.start? b = some n) : Begins b := by
  have hsome : (Numeral.start? b).isSome = true := by rw [h]; rfl
  constructor
  · rcases hspace : isSpace b with _ | _
    · rfl
    · simp only [isSpace, Bool.or_eq_true, beq_iff_eq] at hspace
      rcases hspace with ((rfl | rfl) | rfl) | rfl <;> exact absurd hsome (by decide)
  · rintro rfl
    exact absurd hsome (by decide)

/-- What is read in an open list when its next element begins. -/
theorem step_nextItem {b : UInt8} (hb : Begins b) :
    (⟨stack, .nextItem⟩ : Reader).step b = beginValue stack b := by
  simp only [step, hb.1, Bool.false_eq_true, if_false]
  rw [if_neg hb.2]

theorem step_firstItem {b : UInt8} (hb : Begins b) :
    (⟨stack, .firstItem⟩ : Reader).step b = beginValue stack b := by
  simp only [step, hb.1, Bool.false_eq_true, if_false]
  rw [if_neg hb.2]

theorem step_value {b : UInt8} (hb : Begins b) :
    (⟨stack, .value⟩ : Reader).step b = beginValue stack b := by
  simp only [step, hb.1, Bool.false_eq_true, if_false]

/-! Behind an element or a member a comma leads to the next one, and a bracket ends the list or the
object. -/

theorem afterValue_nextItem (nodes : List Node) :
    afterValue ⟨.list nodes :: stack, .separator⟩ 0x2C = ⟨.list nodes :: stack, .nextItem⟩ := rfl

theorem afterValue_closeList (nodes : List Node) :
    afterValue ⟨.list nodes :: stack, .separator⟩ 0x5D =
      complete stack (.list nodes.reverse .closed) := rfl

theorem afterValue_nextName (members : List (Option String × Node)) :
    afterValue ⟨.object members :: stack, .separator⟩ 0x2C =
      ⟨.object members :: stack, .nextName⟩ := rfl

theorem afterValue_closeObject (members : List (Option String × Node)) :
    afterValue ⟨.object members :: stack, .separator⟩ 0x7D =
      complete stack (.object members.reverse .closed) := rfl

/-- The reader stands behind an element of an open list. -/
def BehindItem (stack : List Frame) (items : List Node) (r : Reader) : Prop :=
  ∀ b, Numeral.isPart b = false → r.step b = afterValue ⟨.list items :: stack, .separator⟩ b

/-- The reader stands behind a member of an open object. -/
def BehindMember (stack : List Frame) (members : List (Option String × Node)) (r : Reader) : Prop :=
  ∀ b, Numeral.isPart b = false → r.step b = afterValue ⟨.object members :: stack, .separator⟩ b

end Reader

/-! ### Documents of the grammar are read -/

theorem isPart_of_isSpace {b : UInt8} (h : Reader.isSpace b = true) : Numeral.isPart b = false := by
  simp only [Reader.isSpace, Bool.or_eq_true, beq_iff_eq] at h
  rcases h with ((rfl | rfl) | rfl) | rfl <;> rfl

namespace Reader

variable {stack : List Frame} {r : Reader} {gap : Bytes}

/-- White space that changes nothing is skipped. -/
theorem run_blank (hspace : ∀ b, isSpace b = true → r.step b = r) (h : IsBlank gap) :
    r.run gap = r := by
  induction gap with
  | nil => rfl
  | cons b gap ih =>
    obtain ⟨hb, hgap⟩ := List.forall_mem_cons.mp h
    rw [run_cons, hspace b hb, ih hgap]

/-- The reader waits for a value. -/
structure Waits (stack : List Frame) (r : Reader) : Prop where
  space : ∀ b, isSpace b = true → r.step b = r
  begins : ∀ b, Begins b → r.step b = beginValue stack b

theorem waits_value (stack : List Frame) : Waits stack ⟨stack, .value⟩ :=
  ⟨fun b hb => by simp [step, hb], fun _ hb => step_value hb⟩

theorem waits_firstItem (stack : List Frame) : Waits stack ⟨stack, .firstItem⟩ :=
  ⟨fun b hb => by simp [step, hb], fun _ hb => step_firstItem hb⟩

theorem waits_nextItem (stack : List Frame) : Waits stack ⟨stack, .nextItem⟩ :=
  ⟨fun b hb => by simp [step, hb], fun _ hb => step_nextItem hb⟩

/-- The reader waits for the name of a member. -/
structure WaitsName (stack : List Frame) (members : List (Option String × Node)) (r : Reader) :
    Prop where
  space : ∀ b, isSpace b = true → r.step b = r
  quote : r.step 0x22 = ⟨.object members :: stack, .name .start⟩

theorem waitsName_firstName (stack : List Frame) (members : List (Option String × Node)) :
    WaitsName stack members ⟨.object members :: stack, .firstName⟩ :=
  ⟨fun b hb => by simp [step, hb], rfl⟩

theorem waitsName_nextName (stack : List Frame) (members : List (Option String × Node)) :
    WaitsName stack members ⟨.object members :: stack, .nextName⟩ :=
  ⟨fun b hb => by simp [step, hb], rfl⟩

/-- White space behind a value is skipped. -/
theorem afterValue_of_isSpace {b : UInt8} (hb : isSpace b = true) (stack : List Frame)
    (value : Node) : afterValue (complete stack value) b = complete stack value := by
  rcases stack with _ | ⟨_ | _ | _, rest⟩ <;> simp [complete, afterValue, hb]

theorem Behind.run_blank {value : Node} (h : Behind stack value r) (hgap : IsBlank gap) :
    Behind stack value (r.run gap) := by
  cases gap with
  | nil => exact h
  | cons b gap =>
    obtain ⟨hb, hgap⟩ := List.forall_mem_cons.mp hgap
    have hskip (c : UInt8) (hc : isSpace c = true) :
        (complete stack value).step c = complete stack value := by
      rw [(behind_complete value).step_eq c (isPart_of_isSpace hc), afterValue_of_isSpace hc]
    rw [run_cons, h.step_eq b (isPart_of_isSpace hb), afterValue_of_isSpace hb,
      Reader.run_blank hskip hgap]
    exact behind_complete value

end Reader

open Reader

/-- The reader goes through the phrase, with whatever is open around it, and stands behind it. -/
def Phrase.IsRead : Phrase → Bytes → Prop
  | .value node, bytes => Reads bytes node
  | .padded node, bytes => ∀ stack r, Waits stack r → Behind stack node (r.run bytes)
  | .items nodes, bytes => ∀ stack,
      BehindItem stack nodes.reverse ((⟨.list [] :: stack, .firstItem⟩ : Reader).run bytes)
  | .member m, bytes => ∀ stack before r, WaitsName stack before r →
      BehindMember stack (m :: before) (r.run bytes)
  | .members ms, bytes => ∀ stack,
      BehindMember stack ms.reverse ((⟨.object [] :: stack, .firstName⟩ : Reader).run bytes)

theorem reads_numeral {bytes : Bytes} {numeral : Numeral} (h : IsNumeral bytes)
    (hread : Numeral.ofBytes? bytes = some numeral) : Reads bytes (.number numeral.value?) := by
  intro stack
  have hwhole := (Numeral.isWhole_iff_isNumeral hread).mpr h
  cases bytes with
  | nil => cases hread
  | cons b rest =>
    rw [Numeral.ofBytes?, Option.bind_eq_some_iff] at hread
    obtain ⟨first, hstart, hafter⟩ := hread
    refine ⟨b, rest, rfl, begins_of_start? hstart, ?_⟩
    rw [beginValue_of_start? hstart, run_numeral hafter]
    exact behind_numeral hwhole

theorem reads_text {inner : Bytes} {reading : TextReading} (h : IsText inner)
    (hread : TextReading.start.after? inner = some reading) :
    Reads (0x22 :: (inner ++ [0x22])) (.text reading.content) := by
  intro stack
  refine ⟨0x22, inner ++ [0x22], rfl, by decide, ?_⟩
  have hbegin : beginValue stack 0x22 = ⟨stack, .text .start⟩ := rfl
  rw [hbegin, run_append, run_text hread, run_cons, run_nil]
  simp only [step, TextReading.step_quote h hread]
  exact behind_complete _

/-- What the grammar spells is read. -/
theorem Spells.isRead {phrase : Phrase} {bytes : Bytes} (h : Spells phrase bytes) :
    phrase.IsRead bytes := by
  induction h with
  | null => exact fun stack => ⟨0x6E, _, rfl, by decide, behind_complete _⟩
  | isTrue => exact fun stack => ⟨0x74, _, rfl, by decide, behind_complete _⟩
  | isFalse => exact fun stack => ⟨0x66, _, rfl, by decide, behind_complete _⟩
  | numeral h hread => exact reads_numeral h hread
  | text h hread => exact reads_text h hread
  | @emptyList gap hgap =>
    intro stack
    refine ⟨0x5B, gap ++ [0x5D], rfl, by decide, ?_⟩
    have hbegin : beginValue stack 0x5B = ⟨.list [] :: stack, .firstItem⟩ := rfl
    rw [hbegin, run_append, run_blank (waits_firstItem _).space hgap]
    exact behind_complete _
  | @list nodes inner _ ih =>
    intro stack
    refine ⟨0x5B, inner ++ [0x5D], rfl, by decide, ?_⟩
    have hbegin : beginValue stack 0x5B = ⟨.list [] :: stack, .firstItem⟩ := rfl
    rw [hbegin, run_append, run_cons, run_nil, ih stack 0x5D (by decide), afterValue_closeList,
      List.reverse_reverse]
    exact behind_complete _
  | @emptyObject gap hgap =>
    intro stack
    refine ⟨0x7B, gap ++ [0x7D], rfl, by decide, ?_⟩
    have hbegin : beginValue stack 0x7B = ⟨.object [] :: stack, .firstName⟩ := rfl
    rw [hbegin, run_append, run_blank (waitsName_firstName _ _).space hgap]
    exact behind_complete _
  | @object members inner _ ih =>
    intro stack
    refine ⟨0x7B, inner ++ [0x7D], rfl, by decide, ?_⟩
    have hbegin : beginValue stack 0x7B = ⟨.object [] :: stack, .firstName⟩ := rfl
    rw [hbegin, run_append, run_cons, run_nil, ih stack 0x7D (by decide), afterValue_closeObject,
      List.reverse_reverse]
    exact behind_complete _
  | @padded node before bytes after hbefore _ hafter ih =>
    intro stack r hr
    obtain ⟨b, rest, rfl, hbegins, hbehind⟩ := ih stack
    rw [run_append, run_blank hr.space hbefore, run_append, run_cons, hr.begins b hbegins]
    exact hbehind.run_blank hafter
  | item _ ih => exact fun stack => (ih _ _ (waits_firstItem _)).step_eq
  | @items nodes node inner bytes _ _ ihitems ih =>
    intro stack
    rw [run_append, run_cons, ihitems stack 0x2C (by decide), afterValue_nextItem,
      List.reverse_concat]
    exact (ih _ _ (waits_nextItem _)).step_eq
  | @named name reading node before gap bytes hbefore htext hread hgap _ ih =>
    intro stack members r hr
    have hquote : (⟨.object members :: stack, .name reading⟩ : Reader).step 0x22 =
        ⟨.object members :: stack, .colon reading.content⟩ := by
      simp only [step, TextReading.step_quote htext hread]
    have hspace (b : UInt8) (hb : isSpace b = true) :
        (⟨.object members :: stack, .colon reading.content⟩ : Reader).step b =
          ⟨.object members :: stack, .colon reading.content⟩ := by
      simp [step, hb]
    have hcolon : (⟨.object members :: stack, .colon reading.content⟩ : Reader).step 0x3A =
        ⟨.member members reading.content :: stack, .value⟩ := rfl
    rw [run_append, run_blank hr.space hbefore, run_cons, hr.quote, run_append, run_name hread,
      run_cons, hquote, run_append, run_blank hspace hgap, run_cons, hcolon]
    exact (ih _ _ (waits_value _)).step_eq
  | member _ ih => exact fun stack => ih _ _ _ (waitsName_firstName _ _)
  | @members members member inner bytes _ _ ihmembers ih =>
    intro stack
    rw [run_append, run_cons, ihmembers stack 0x2C (by decide), afterValue_nextName,
      List.reverse_concat]
    exact ih _ _ _ (waitsName_nextName _ _)

/-- A document of the grammar is read as what it spells, and nothing is left over. -/
theorem read_of_spells {bytes : Bytes} {node : Node} (h : Spells (.padded node) bytes) :
    read bytes = ⟨node, true⟩ := by
  have hbehind : Behind [] node (Reader.start.run bytes) := h.isRead [] _ (waits_value [])
  rw [read, hbehind.finish_eq]
  rfl

/-- No bytes spell two documents. -/
theorem Spells.eq_of_padded {bytes : Bytes} {node other : Node} (h : Spells (.padded node) bytes)
    (hother : Spells (.padded other) bytes) : node = other := by
  have hread := (read_of_spells h).symm.trans (read_of_spells hother)
  exact congrArg Document.root hread

end TicketGrant.Json
