import TicketGrant.Codec
import TicketGrant.Proofs.Json.Grammar
import TicketGrant.Proofs.Json.Members

/-!
# What the reader accepts

The reader accepts exactly the documents of the grammar, and reads each as the tree that it spells
(`read_eq_iff`). At any point the open lists and objects and the mode tell which beginning of the
grammar has been read (`Holds`), and one more byte keeps that true unless the reader stops
(`Holds.step`).
-/
namespace TicketGrant.Json

open Reader

/-- White space may follow, except directly behind a value. -/
theorem Spells.append_blank {phrase : Phrase} {bytes gap : Bytes} (h : Spells phrase bytes)
    (hphrase : ∀ node, phrase ≠ .value node) (hgap : IsBlank gap) :
    Spells phrase (bytes ++ gap) := by
  induction h with
  | padded hbefore hvalue hafter =>
    rw [List.append_assoc, List.append_assoc]
    exact .padded hbefore hvalue (List.forall_mem_append.mpr ⟨hafter, hgap⟩)
  | item _ ih => exact .item (ih (by simp))
  | items hitems _ _ ih =>
    rw [List.append_assoc, List.cons_append]
    exact .items hitems (ih (by simp))
  | named hbefore htext hread hgap _ ih =>
    simp only [List.append_assoc, List.cons_append]
    exact .named hbefore htext hread hgap (ih (by simp))
  | member _ ih => exact .member (ih (by simp))
  | members hmembers _ _ ih =>
    rw [List.append_assoc, List.cons_append]
    exact .members hmembers (ih (by simp))
  | _ => exact absurd rfl (hphrase _)

/-- What stands in an open list in front of its next element. -/
inductive OpensList : List Node → Bytes → Prop
  | first {gap} : IsBlank gap → OpensList [] gap
  | next {nodes inner gap} : Spells (.items nodes.reverse) inner → IsBlank gap →
      OpensList nodes (inner ++ 0x2C :: gap)

/-- What stands in an open object in front of its next member. -/
inductive OpensObject : List (Option String × Node) → Bytes → Prop
  | first {gap} : IsBlank gap → OpensObject [] gap
  | next {members inner gap} : Spells (.members members.reverse) inner → IsBlank gap →
      OpensObject members (inner ++ 0x2C :: gap)

/-- What has been read when a value may begin. -/
inductive AwaitsValue : List Frame → Bytes → Prop
  | root {gap} : IsBlank gap → AwaitsValue [] gap
  | item {stack before nodes inner} : AwaitsValue stack before → OpensList nodes inner →
      AwaitsValue (.list nodes :: stack) (before ++ 0x5B :: inner)
  | member {stack before members inner name reading gap gap'} : AwaitsValue stack before →
      OpensObject members inner → IsText name → TextReading.start.after? name = some reading →
      IsBlank gap → IsBlank gap' →
      AwaitsValue (.member members reading.content :: stack)
        (before ++ 0x7B :: (inner ++ 0x22 :: (name ++ 0x22 :: (gap ++ 0x3A :: gap'))))

/-- What has been read when the reader is in a state. -/
inductive Holds : Reader → Bytes → Prop
  | value {stack bytes} : AwaitsValue stack bytes → Holds ⟨stack, .value⟩ bytes
  | firstItem {stack before gap bytes} : AwaitsValue stack before → IsBlank gap →
      bytes = before ++ 0x5B :: gap → Holds ⟨.list [] :: stack, .firstItem⟩ bytes
  | nextItem {stack bytes} : AwaitsValue stack bytes → Holds ⟨stack, .nextItem⟩ bytes
  | firstName {stack before gap bytes} : AwaitsValue stack before → IsBlank gap →
      bytes = before ++ 0x7B :: gap → Holds ⟨.object [] :: stack, .firstName⟩ bytes
  | nextName {stack before members inner bytes} : AwaitsValue stack before →
      OpensObject members inner → bytes = before ++ 0x7B :: inner →
      Holds ⟨.object members :: stack, .nextName⟩ bytes
  | name {stack before members inner name reading bytes} : AwaitsValue stack before →
      OpensObject members inner → TextReading.start.after? name = some reading →
      bytes = before ++ 0x7B :: (inner ++ 0x22 :: name) →
      Holds ⟨.object members :: stack, .name reading⟩ bytes
  | colon {stack before members inner name reading gap bytes} : AwaitsValue stack before →
      OpensObject members inner → IsText name → TextReading.start.after? name = some reading →
      IsBlank gap → bytes = before ++ 0x7B :: (inner ++ 0x22 :: (name ++ 0x22 :: gap)) →
      Holds ⟨.object members :: stack, .colon reading.content⟩ bytes
  | text {stack before inner reading bytes} : AwaitsValue stack before →
      TextReading.start.after? inner = some reading → bytes = before ++ 0x22 :: inner →
      Holds ⟨stack, .text reading⟩ bytes
  | word {stack before begun rest node bytes} : AwaitsValue stack before →
      Spells (.value node) (begun ++ rest) → bytes = before ++ begun →
      Holds ⟨stack, .word rest node⟩ bytes
  | numeral {stack before inner numeral bytes} : AwaitsValue stack before →
      Numeral.ofBytes? inner = some numeral → bytes = before ++ inner →
      Holds ⟨stack, .numeral numeral⟩ bytes
  | item {stack before nodes inner bytes} : AwaitsValue stack before →
      Spells (.items nodes.reverse) inner → bytes = before ++ 0x5B :: inner →
      Holds ⟨.list nodes :: stack, .separator⟩ bytes
  | member {stack before members inner bytes} : AwaitsValue stack before →
      Spells (.members members.reverse) inner → bytes = before ++ 0x7B :: inner →
      Holds ⟨.object members :: stack, .separator⟩ bytes
  | done {root bytes} : Spells (.padded root) bytes → Holds ⟨[], .done root⟩ bytes
  | trailing {root bytes} : Holds ⟨[], .trailing root⟩ bytes
  | stopped {root bytes} : root.isSound = false → Holds ⟨[], .stopped root⟩ bytes

section Holds
variable {stack : List Frame} {r : Reader} {bytes before : Bytes} {node : Node} {b : UInt8}

theorem isBlank_append {gap : Bytes} (h : IsBlank gap) (hb : isSpace b = true) :
    IsBlank (gap ++ [b]) :=
  List.forall_mem_append.mpr ⟨h, by simpa using hb⟩

theorem OpensList.append_blank {nodes : List Node} (h : OpensList nodes bytes)
    (hb : isSpace b = true) : OpensList nodes (bytes ++ [b]) := by
  cases h with
  | first hgap => exact .first (isBlank_append hgap hb)
  | next hitems hgap =>
    rw [List.append_assoc, List.cons_append]
    exact .next hitems (isBlank_append hgap hb)

theorem OpensObject.append_blank {members : List (Option String × Node)}
    (h : OpensObject members bytes) (hb : isSpace b = true) : OpensObject members (bytes ++ [b]) := by
  cases h with
  | first hgap => exact .first (isBlank_append hgap hb)
  | next hmembers hgap =>
    rw [List.append_assoc, List.cons_append]
    exact .next hmembers (isBlank_append hgap hb)

theorem AwaitsValue.append_blank (h : AwaitsValue stack bytes) (hb : isSpace b = true) :
    AwaitsValue stack (bytes ++ [b]) := by
  cases h with
  | root hgap => exact .root (isBlank_append hgap hb)
  | item hstack hopens =>
    rw [List.append_assoc, List.cons_append]
    exact .item hstack (hopens.append_blank hb)
  | member hstack hopens htext hread hgap hgap' =>
    simp only [List.append_assoc, List.cons_append]
    exact .member hstack hopens htext hread hgap (isBlank_append hgap' hb)

/-- A value is the next element of its list. -/
theorem OpensList.items {nodes : List Node} {inner : Bytes} (h : OpensList nodes inner)
    (hvalue : Spells (.value node) bytes) :
    Spells (.items (node :: nodes).reverse) (inner ++ bytes) := by
  rw [List.reverse_cons]
  cases h with
  | first hgap => simpa using Spells.item (.padded hgap hvalue isBlank_nil)
  | next hitems hgap => simpa using hitems.items (.padded hgap hvalue isBlank_nil)

/-- A name with its value is the next member of its object. -/
theorem OpensObject.members {members : List (Option String × Node)} {inner name gap gap' : Bytes}
    {reading : TextReading} (h : OpensObject members inner) (htext : IsText name)
    (hread : TextReading.start.after? name = some reading) (hgap : IsBlank gap)
    (hgap' : IsBlank gap') (hvalue : Spells (.value node) bytes) :
    Spells (.members ((reading.content, node) :: members).reverse)
      (inner ++ 0x22 :: (name ++ 0x22 :: (gap ++ 0x3A :: (gap' ++ bytes)))) := by
  have hpadded : Spells (.padded node) (gap' ++ bytes) := by
    simpa using Spells.padded hgap' hvalue isBlank_nil
  rw [List.reverse_cons]
  cases h with
  | first hbefore => exact .member (.named hbefore htext hread hgap hpadded)
  | next hmembers hbefore =>
    rw [List.append_assoc, List.cons_append]
    exact hmembers.members (.named hbefore htext hread hgap hpadded)

/-! #### Where the reader stops -/

theorem isSound_abandoned (h : node.isSound = false) (stack : List Frame) :
    (abandoned node stack).isSound = false := by
  induction stack generalizing node with
  | nil => exact h
  | cons frame stack ih =>
    cases frame with
    | list nodes => exact ih rfl
    | object members => exact ih rfl
    | member members name => exact ih rfl

/-- The reader has stopped inside the root, which is not whole. -/
def Reader.IsStopped (r : Reader) : Prop :=
  ∃ root, r = ⟨[], .stopped root⟩ ∧ root.isSound = false

theorem isStopped_stopValue (stack : List Frame) : (stopValue stack).IsStopped :=
  ⟨_, rfl, isSound_abandoned rfl stack⟩

theorem isStopped_stopInside {ending : Ending} (h : ending ≠ .closed) (stack : List Frame) :
    (stopInside ending stack).IsStopped := by
  unfold stopInside
  split
  · exact ⟨_, rfl, isSound_abandoned (by simpa [Node.isSound] using h) _⟩
  · exact ⟨_, rfl, isSound_abandoned (by simpa [Node.isSound] using h) _⟩
  · exact isStopped_stopValue _

theorem isStopped_stopAfterName (name : Option String) (stack : List Frame) :
    (stopAfterName name stack).IsStopped := by
  rw [stopAfterName]
  split
  · exact isStopped_stopInside (by decide) stack
  · exact isStopped_stopInside (by decide) stack

theorem Reader.IsStopped.holds (h : r.IsStopped) (bytes : Bytes) : Holds r bytes := by
  obtain ⟨root, rfl, hroot⟩ := h
  exact .stopped hroot

/-! #### What a byte does -/

/-- A whole value becomes a part of what is open around it, or the root. -/
theorem holds_complete (h : AwaitsValue stack before) (hvalue : Spells (.value node) bytes) :
    Holds (complete stack node) (before ++ bytes) := by
  cases h with
  | root hgap => exact .done (by simpa using Spells.padded hgap hvalue isBlank_nil)
  | item hstack hopens => exact .item hstack (hopens.items hvalue) (by simp)
  | member hstack hopens htext hread hgap hgap' =>
    exact .member hstack (hopens.members htext hread hgap hgap' hvalue) (by simp)

/-- A list that ends has become a value. -/
theorem holds_closeList (nodes : List Node) (h : AwaitsValue stack before)
    (hlist : Spells (.value (.list nodes.reverse .closed)) bytes) :
    Holds (close (.list nodes :: stack)) (before ++ bytes) :=
  holds_complete h hlist

/-- An object that ends has become a value. -/
theorem holds_closeObject (members : List (Option String × Node)) (h : AwaitsValue stack before)
    (hobject : Spells (.value (.object members.reverse .closed)) bytes) :
    Holds (close (.object members :: stack)) (before ++ bytes) :=
  holds_complete h hobject

theorem holds_beginValue (h : AwaitsValue stack bytes) (b : UInt8) :
    Holds (beginValue stack b) (bytes ++ [b]) := by
  unfold beginValue
  split
  · exact .text h (TextReading.after?_nil _) rfl
  · exact .firstItem h isBlank_nil rfl
  · exact .firstName h isBlank_nil rfl
  · exact .word h .null rfl
  · exact .word h .isTrue rfl
  · exact .word h .isFalse rfl
  · split
    · rename_i numeral hnumeral
      have hread : Numeral.ofBytes? [b] = some numeral := by
        rw [Numeral.ofBytes?, hnumeral]
        rfl
      exact .numeral h hread rfl
    · exact (isStopped_stopValue stack).holds _

/-- Behind an element, a member or the root. -/
theorem holds_afterValue (h : Holds r bytes)
    (hmode : r.mode = .separator ∨ ∃ root, r.mode = .done root) (b : UInt8) :
    Holds (afterValue r b) (bytes ++ [b]) := by
  cases h with
  | @item stack before nodes inner _ hstack hitems hbytes =>
    simp only [afterValue]
    split
    · rename_i hb
      exact .item hstack (hitems.append_blank (by simp) (isBlank_append isBlank_nil hb))
        (by simp [hbytes])
    split
    · rename_i hb
      have hopens : OpensList nodes (inner ++ 0x2C :: []) := .next hitems isBlank_nil
      refine .nextItem ?_
      rw [hbytes, hb]
      simpa using AwaitsValue.item hstack hopens
    split
    · rename_i hb
      rw [hbytes, hb]
      simpa using holds_closeList nodes hstack (.list hitems)
    · exact (isStopped_stopInside (by decide) _).holds _
  | @member stack before members inner _ hstack hmembers hbytes =>
    simp only [afterValue]
    split
    · rename_i hb
      exact .member hstack (hmembers.append_blank (by simp) (isBlank_append isBlank_nil hb))
        (by simp [hbytes])
    split
    · rename_i hb
      exact .nextName hstack (.next hmembers isBlank_nil) (by simp [hbytes, hb])
    split
    · rename_i hb
      rw [hbytes, hb]
      simpa using holds_closeObject members hstack (.object hmembers)
    · exact (isStopped_stopInside (by decide) _).holds _
  | done hroot =>
    simp only [afterValue]
    split
    · rename_i hb
      exact .done (hroot.append_blank (by simp) (isBlank_append isBlank_nil hb))
    · exact .trailing
  | _ => simp at hmode

/-- One more byte keeps what holds of the reader. -/
theorem Holds.step (h : Holds r bytes) (b : UInt8) : Holds (r.step b) (bytes ++ [b]) := by
  cases h with
  | value hvalue =>
    simp only [Reader.step]
    split
    · rename_i hb
      exact .value (hvalue.append_blank hb)
    · exact holds_beginValue hvalue b
  | @firstItem stack before gap _ hstack hgap hbytes =>
    simp only [Reader.step]
    split
    · rename_i hb
      exact .firstItem hstack (isBlank_append hgap hb) (by simp [hbytes])
    split
    · rename_i hb
      rw [hbytes, hb]
      simpa using holds_closeList [] hstack (.emptyList hgap)
    · rw [hbytes]
      exact holds_beginValue (.item hstack (.first hgap)) b
  | nextItem hvalue =>
    simp only [Reader.step]
    split
    · rename_i hb
      exact .nextItem (hvalue.append_blank hb)
    split
    · exact (isStopped_stopInside (by decide) _).holds _
    · exact holds_beginValue hvalue b
  | @firstName stack before gap _ hstack hgap hbytes =>
    simp only [Reader.step]
    split
    · rename_i hb
      exact .firstName hstack (isBlank_append hgap hb) (by simp [hbytes])
    split
    · rename_i hb
      rw [hbytes, hb]
      simpa using holds_closeObject [] hstack (.emptyObject hgap)
    split
    · rename_i hb
      exact .name hstack (.first hgap) (TextReading.after?_nil _) (by simp [hbytes, hb])
    · exact (isStopped_stopInside (by decide) _).holds _
  | nextName hstack hopens hbytes =>
    simp only [Reader.step]
    split
    · rename_i hb
      exact .nextName hstack (hopens.append_blank hb) (by simp [hbytes])
    split
    · rename_i hb
      exact .name hstack hopens (TextReading.after?_nil _) (by simp [hbytes, hb])
    · exact (isStopped_stopInside (by decide) _).holds _
  | @name stack before members inner name reading _ hstack hopens hread hbytes =>
    simp only [Reader.step]
    split
    · rename_i next hstep
      have hmore := TextReading.after?_concat_eq_some_iff.mpr ⟨reading, hread, hstep⟩
      exact .name hstack hopens hmore (by simp [hbytes])
    · rename_i content hstep
      obtain ⟨htext, rfl, rfl⟩ := (TextReading.step_eq_ended_iff_isText hread).mp hstep
      exact .colon hstack hopens htext hread isBlank_nil (by simp [hbytes])
    · exact (isStopped_stopInside (by decide) _).holds _
  | @colon stack before members inner name reading gap _ hstack hopens htext hread hgap hbytes =>
    simp only [Reader.step]
    split
    · rename_i hb
      exact .colon hstack hopens htext hread (isBlank_append hgap hb) (by simp [hbytes])
    split
    · rename_i hb
      refine .value ?_
      rw [hbytes, hb]
      simpa using AwaitsValue.member hstack hopens htext hread hgap isBlank_nil
    · exact (isStopped_stopAfterName _ _).holds _
  | @text stack before inner reading _ hstack hread hbytes =>
    simp only [Reader.step]
    split
    · rename_i next hstep
      have hmore := TextReading.after?_concat_eq_some_iff.mpr ⟨reading, hread, hstep⟩
      exact .text hstack hmore (by simp [hbytes])
    · rename_i content hstep
      obtain ⟨htext, rfl, rfl⟩ := (TextReading.step_eq_ended_iff_isText hread).mp hstep
      rw [hbytes]
      simpa using holds_complete hstack (.text htext hread)
    · exact (isStopped_stopValue _).holds _
  | @word stack before begun rest node _ hstack hvalue hbytes =>
    simp only [Reader.step]
    split
    · exact (isStopped_stopValue _).holds _
    · split
      · rename_i c hb
        rw [hbytes, hb, List.append_assoc]
        exact holds_complete hstack hvalue
      · exact (isStopped_stopValue _).holds _
    · split
      · rename_i c rest _ hb
        have hmore : Spells (.value node) ((begun ++ [b]) ++ rest) := by simpa [hb] using hvalue
        exact .word hstack hmore (by simp [hbytes])
      · exact (isStopped_stopValue _).holds _
  | @numeral stack before inner numeral _ hstack hread hbytes =>
    simp only [Reader.step]
    split
    · rename_i next hstep
      have hmore : Numeral.ofBytes? (inner ++ [b]) = some next := by
        rw [Numeral.ofBytes?_append hread, Numeral.after?_cons hstep]
        rfl
      exact .numeral hstack hmore (by simp [hbytes])
    · rename_i hstep
      have hwhole := Numeral.isWhole_of_step_eq_ended hstep
      have hnumeral := (Numeral.isWhole_iff_isNumeral hread).mp hwhole
      have hcomplete := holds_complete hstack (.numeral hnumeral hread)
      rw [hbytes]
      refine holds_afterValue hcomplete ?_ b
      cases hstack with
      | root => exact .inr ⟨_, rfl⟩
      | item => exact .inl rfl
      | member => exact .inl rfl
    · exact (isStopped_stopValue _).holds _
  | item hstack hitems hbytes => exact holds_afterValue (.item hstack hitems hbytes) (.inl rfl) b
  | member hstack hmembers hbytes =>
    exact holds_afterValue (.member hstack hmembers hbytes) (.inl rfl) b
  | done hroot => exact holds_afterValue (.done hroot) (.inr ⟨_, rfl⟩) b
  | trailing => exact .trailing
  | stopped hroot => exact .stopped hroot

/-- Whatever bytes are read, the reader's state tells which beginning of the grammar they are. -/
theorem holds_run (bytes : Bytes) : Holds (Reader.start.run bytes) bytes := by
  induction bytes using List.reverseRecOn with
  | nil => exact .value (.root isBlank_nil)
  | append_singleton bytes b ih =>
    rw [run_append]
    exact ih.step b

/-- What has been read when the input has ended. -/
def Mode.Concludes (bytes : Bytes) : Mode → Prop
  | .done root => Spells (.padded root) bytes
  | .trailing _ => True
  | .stopped root => root.isSound = false
  | _ => False

theorem Reader.IsStopped.concludes (h : r.IsStopped) (bytes : Bytes) :
    r.mode.Concludes bytes := by
  obtain ⟨root, rfl, hroot⟩ := h
  exact hroot

theorem Holds.finish (h : Holds r bytes) : r.finish.mode.Concludes bytes := by
  cases h with
  | value | text | word => exact (isStopped_stopValue _).concludes _
  | firstItem | nextItem | firstName | nextName | name | item | member =>
    exact (isStopped_stopInside (by decide) _).concludes _
  | colon => exact (isStopped_stopAfterName _ _).concludes _
  | @numeral stack before inner numeral _ hstack hread hbytes =>
    simp only [Reader.finish]
    split
    · rename_i hwhole
      have hnumeral := (Numeral.isWhole_iff_isNumeral hread).mp hwhole
      cases hstack with
      | @root gap hgap =>
        have hroot : Spells (.padded (.number numeral.value?)) (before ++ inner) := by
          simpa using Spells.padded hgap (.numeral hnumeral hread) isBlank_nil
        rw [hbytes]
        exact hroot
      | item => exact (isStopped_stopInside (by decide) _).concludes _
      | member => exact (isStopped_stopInside (by decide) _).concludes _
    · exact (isStopped_stopValue _).concludes _
  | done hroot => exact hroot
  | trailing => trivial
  | stopped hroot => exact hroot

end Holds

/-- A whole root with nothing behind it is what the document spells. -/
theorem spells_of_read {node : Node} {bytes : Bytes} (h : read bytes = ⟨node, true⟩)
    (hsound : node.isSound = true) : Spells (.padded node) bytes := by
  have hconcludes := (holds_run bytes).finish
  rw [read] at h
  generalize ((Reader.start.run bytes).finish).mode = mode at h hconcludes
  cases mode with
  | done root =>
    cases h
    exact hconcludes
  | trailing root => cases h
  | stopped root =>
    cases h
    exact absurd hsound (by rw [show node.isSound = false from hconcludes]; decide)
  | _ => exact hconcludes.elim

/-- The reader accepts the documents of the grammar and no others, and reads each as what it
spells. -/
theorem read_eq_iff {node : Node} {bytes : Bytes} :
    read bytes = ⟨node, true⟩ ∧ node.isSound = true ↔ Spells (.padded node) bytes :=
  ⟨fun ⟨hread, hsound⟩ => spells_of_read hread hsound,
    fun h => ⟨read_of_spells h, h.isSound⟩⟩

/-- A decoder that takes whole values only finds one in a body exactly if the body is a document of the
grammar, and the decoder takes what it spells. -/
theorem decode_eq_ok_iff {α : Type} {decoder : Decoder α}
    (hwhole : ∀ node a, decoder node = .ok a → node.isSound = true) {body : Bytes} {a : α} :
    Json.decode decoder body = .ok a ↔
      ∃ node, Spells (.padded node) body ∧ decoder node = .ok a := by
  rw [Json.decode]
  constructor
  · intro h
    cases hroot : decoder (read body).root with
    | error place => simp [hroot, bind, Except.bind] at h
    | ok found =>
      by_cases hended : (read body).ended = true
      · simp [hroot, hended, bind, Except.bind] at h
        obtain rfl := h
        have hread : read body = ⟨(read body).root, true⟩ := by rw [← hended]
        exact ⟨_, spells_of_read hread (hwhole _ _ hroot), hroot⟩
      · simp [hroot, hended, bind, Except.bind] at h
  · rintro ⟨node, hspells, hnode⟩
    rw [read_of_spells hspells, hnode]
    rfl

/-- A record is found in a body exactly if the body is a document of the grammar, and the record takes
what it spells. -/
theorem Record.plain_decode_eq_ok_iff {α : Type} {record : Record α} {body : Bytes} {a : α} :
    Codec.plain.decode record.decode body = .ok a ↔
      ∃ node, Spells (.padded node) body ∧ record.decode node = .ok a :=
  Codec.plain_decode_eq_ok_iff.trans (decode_eq_ok_iff fun _ _ => isSound_of_decode)

end TicketGrant.Json
