import TicketGrant.Proofs.Json.Accepted
import TicketGrant.Proofs.Json.Written
import TicketGrant.Proofs.Settlement

/-!
# Bodies of refusals

A body is a refusal in one of three ways. An object tells a code and a description, or a list of two
elements does (`Refusal.IsToldBy`); what is told without a code has the code `undefined`; and any other
body is `Unexpected`. The code of an object is kept whatever other members stand there, as long as its
description is a text or `null` (`code_kept_of_object`). With any other description it is lost
(`code_lost_of_number`).
-/
namespace TicketGrant

open Json Record Http

namespace Refusal

/-! ### Documents that tell a refusal -/

/-- The members of an object can be read, and tell a description or none. -/
structure Describes (members : List (Option String × Node)) (description : Option String) : Prop where
  names : ∀ m ∈ members, m.1 ≠ none
  description : TellsText members "error_description" description

/-- A document tells a code and a description, and either may be missing. -/
inductive IsToldBy : Node → Option String → Option String → Prop
  | object {members code description} :
      TellsText members "error" code → Describes members description →
      IsToldBy (.object members .closed) code description
  | list {code description} :
      IsToldBy (.list [ofText code, ofText description] .closed) code description

variable {members : List (Option String × Node)} {code description : Option String}

theorem build_record {find : String → Option Node}
    (hcode : (optional "error" Decoder.text).build find = .ok code)
    (hdescription : (optional "error_description" Decoder.text).build find = .ok description) :
    record.build find = .ok (code, description) := by
  change (do
    let pair ← (do
      let c ← (optional "error" Decoder.text).build find
      Except.ok (Prod.mk c))
    let d ← (optional "error_description" Decoder.text).build find
    Except.ok (pair d)) = _
  rw [hcode, hdescription]
  rfl

theorem decode_object_iff (hsound : ∀ m ∈ members, m.2.isSound = true) :
    record.decode (.object members .closed) = .ok (code, description) ↔
      TellsText members "error" code ∧ Describes members description := by
  have hslots : record.slots = (optional "error" Decoder.text).slots ++
      (optional "error_description" Decoder.text).slots := rfl
  have haccepts : Accepts record.slots members ↔ (∀ m ∈ members, m.1 ≠ none) ∧
      (∃ code, TellsText members "error" code) ∧
        ∃ description, TellsText members "error_description" description := by
    rw [accepts_iff (by decide) hsound, hslots, List.forall_mem_append, exists_tellsText_iff,
      exists_tellsText_iff]
    exact and_congr_right fun _ =>
      and_congr List.forall_mem_singleton List.forall_mem_singleton
  rw [decode_object_eq_ok_iff, haccepts]
  constructor
  · rintro ⟨⟨hnames, ⟨code', hcode⟩, description', hdescription⟩, hbuild⟩
    cases (build_record hcode.build_eq hdescription.build_eq).symm.trans hbuild
    exact ⟨hcode, hnames, hdescription⟩
  · rintro ⟨hcode, hnames, hdescription⟩
    exact ⟨⟨hnames, ⟨code, hcode⟩, description, hdescription⟩,
      build_record hcode.build_eq hdescription.build_eq⟩

/-- A list tells a refusal in two elements. -/
theorem decode_list_iff {items : List Node} {ending : Json.Ending} :
    record.decode (.list items ending) = .ok (code, description) ↔
      items = [ofText code, ofText description] ∧ ending = .closed := by
  constructor
  · intro h
    obtain rfl : ending = .closed := by simpa [Node.isSound] using isSound_of_decode h
    obtain ⟨hle, hmissing, -⟩ := checkItems_eq_ok_iff.mp (checkItems_of_decode h)
    have hbuild := build_of_decode h
    rcases items with _ | ⟨first, _ | ⟨second, _ | ⟨third, rest⟩⟩⟩
    · have hcode := hmissing _ (List.mem_cons_self ..)
      cases hcode
    · have hdescription := hmissing _ (List.mem_cons_self ..)
      cases hdescription
    · obtain ⟨_, _, hpair, hsecond, heq⟩ := exists_of_build_seq hbuild
      obtain ⟨_, hfirst, rfl⟩ := exists_of_build_map hpair
      cases heq
      change Decoder.text.nullable first = .ok code at hfirst
      change Decoder.text.nullable second = .ok description at hsecond
      rw [nullable_text_eq_ok_iff.mp hfirst, nullable_text_eq_ok_iff.mp hsecond]
      exact ⟨rfl, rfl⟩
    · have hlength : record.slots.length = 2 := rfl
      simp [hlength] at hle
  · rintro ⟨rfl, rfl⟩
    cases code <;> cases description <;> rfl

theorem IsToldBy.decode_eq {node : Node} {body : Bytes} (h : IsToldBy node code description)
    (hspells : Spells (.padded node) body) : record.decode node = .ok (code, description) := by
  cases h with
  | object hcode hdescribes =>
    exact (decode_object_iff hspells.isSound_of_mem).mpr ⟨hcode, hdescribes⟩
  | list => exact decode_list_iff.mpr ⟨rfl, rfl⟩

theorem isToldBy_of_decode {node : Node} {body : Bytes} (hspells : Spells (.padded node) body)
    (h : record.decode node = .ok (code, description)) : IsToldBy node code description := by
  cases node with
  | object members ending =>
    obtain rfl : ending = .closed := by simpa [Node.isSound] using isSound_of_decode h
    obtain ⟨hcode, hdescribes⟩ := (decode_object_iff hspells.isSound_of_mem).mp h
    exact .object hcode hdescribes
  | list items ending =>
    obtain ⟨rfl, rfl⟩ := decode_list_iff.mp h
    exact .list
  | _ => cases h

/-- A body is read as a refusal exactly if it spells a document that tells one. -/
theorem plain_decode_eq_ok_iff_isToldBy {body : Bytes} :
    Codec.plain.decode record.decode body = .ok (code, description) ↔
      ∃ node, Spells (.padded node) body ∧ IsToldBy node code description := by
  rw [plain_decode_eq_ok_iff]
  exact exists_congr fun node =>
    ⟨fun ⟨hspells, hdecode⟩ => ⟨hspells, isToldBy_of_decode hspells hdecode⟩,
      fun ⟨hspells, htold⟩ => ⟨hspells, htold.decode_eq hspells⟩⟩

/-! ### Bodies -/

section Bodies
variable {node : Node} {body : Bytes}

theorem ofBody_of_code {code : String} (hspells : Spells (.padded node) body)
    (h : IsToldBy node (some code) description) : ofBody .plain body = ⟨code, description⟩ := by
  rw [ofBody, plain_decode_eq_ok_iff_isToldBy.mpr ⟨node, hspells, h⟩]

/-- Without a code, the description is not kept either. -/
theorem ofBody_of_codeless (hspells : Spells (.padded node) body)
    (h : IsToldBy node none description) : ofBody .plain body = ⟨undefinedCode, none⟩ := by
  rw [ofBody, plain_decode_eq_ok_iff_isToldBy.mpr ⟨node, hspells, h⟩]

/-- What stands for the description of a body that cannot be read. -/
def diagnosis (fault : Json.Fault) : String := "Unable to parse the error response: " ++ fault.message

theorem exists_ofBody_of_untold
    (h : ∀ node code description, Spells (.padded node) body → ¬ IsToldBy node code description) :
    ∃ fault, ofBody .plain body = ⟨unexpectedCode, some (diagnosis fault)⟩ := by
  cases hdecode : Codec.plain.decode record.decode body with
  | ok told =>
    obtain ⟨node, hspells, htold⟩ := plain_decode_eq_ok_iff_isToldBy.mp hdecode
    exact absurd htold (h node _ _ hspells)
  | error fault =>
    refine ⟨fault, ?_⟩
    rw [ofBody, hdecode]
    rfl

/-- A code that stands for no other body is told by a document. -/
theorem exists_isToldBy_of_code {code : String} (h : (ofBody .plain body).code = code)
    (hcode : code ≠ undefinedCode ∧ code ≠ unexpectedCode) :
    ∃ node description, Spells (.padded node) body ∧ IsToldBy node (some code) description := by
  rw [ofBody] at h
  split at h
  · rename_i told description hdecode
    obtain rfl : told = code := h
    obtain ⟨node, hspells, htold⟩ := plain_decode_eq_ok_iff_isToldBy.mp hdecode
    exact ⟨node, description, hspells, htold⟩
  · exact absurd h.symm hcode.1
  · exact absurd h.symm hcode.2

end Bodies
end Refusal

/-! ### Objects with a code -/

/-- An object with one code, a text, keeps it exactly if all of its names and its description can be
read, whatever else stands in it; the client then goes by that code. Otherwise it is read as if it had
none, and its code is `Unexpected`. -/
theorem code_kept_of_object {body : Bytes} {members : List (Option String × Node)} {code : String}
    (hspells : Spells (.padded (.object members .closed)) body)
    (hcode : named members "error" = [(some "error", .text (some code))]) :
    (∀ description, Refusal.Describes members description →
      Refusal.ofBody .plain body = ⟨code, description⟩ ∧
      (Refusal.ofBody .plain body).kind = .ofCode code ∧
      ∀ (c : Client) (response : Response), c.codec = .plain → response.body = body →
        c.codeIn response = code) ∧
    ((∀ description, ¬ Refusal.Describes members description) →
      (Refusal.ofBody .plain body).code = Refusal.unexpectedCode) := by
  have htells : TellsText members "error" (some code) := .inl hcode
  constructor
  · intro description hdescribes
    have hbody : Refusal.ofBody .plain body = ⟨code, description⟩ :=
      Refusal.ofBody_of_code hspells (.object htells hdescribes)
    refine ⟨hbody, by rw [hbody, Refusal.kind], fun c response hplain hresponse => ?_⟩
    rw [Client.codeIn, hplain, hresponse, hbody]
  · intro hnone
    have huntold : ∀ node code description, Spells (.padded node) body →
        ¬ Refusal.IsToldBy node code description := by
      rintro node code description hnode (⟨-, hdescribes⟩ | _)
      all_goals cases hnode.eq_of_padded hspells
      exact hnone _ hdescribes
    obtain ⟨fault, hfault⟩ := Refusal.exists_ofBody_of_untold huntold
    rw [hfault]

/-- An object that demands claims, with no description, and with members of its own. -/
theorem code_kept_of_demand :
    let body := Value.record [("x", .list [.integer 1]), ("error", .text "need_info"),
      ("error_description", .null), ("ticket", .bool true)]
    (Refusal.ofBody .plain (Utf8.encode body.render)).kind = .needInfo := by
  intro body
  have hnames : ∀ m ∈ Value.memberNodes [(.text "x", .list [.integer 1]),
      (.text "error", .text "need_info"), (.text "error_description", .null),
      (.text "ticket", .bool true)], m.1 ≠ none := by
    simp [Value.memberNodes, Name.node]
  exact ((code_kept_of_object body.spells_render rfl).1 none ⟨hnames, .inl rfl⟩).2.1

/-- The description of the object is a number. -/
theorem code_lost_of_number :
    let body := Utf8.encode "\x7b\"error\":\"need_info\",\"error_description\":42\x7d"
    let members := [(some "error", Node.text (some "need_info")),
      (some "error_description", Node.number (some 42))]
    Spells (.padded (.object members .closed)) body ∧
      named members "error" = [(some "error", .text (some "need_info"))] ∧
      (Refusal.ofBody .plain body).code = "Unexpected" ∧
      (Refusal.ofBody .plain body).kind = .other "Unexpected" := by
  intro body members
  refine ⟨?_, rfl, by decide +kernel, by decide +kernel⟩
  let written := Value.record [("error", .text "need_info"), ("error_description", .integer 42)]
  have hbody : body = Utf8.encode written.render := by decide +kernel
  rw [hbody]
  exact written.spells_render

end TicketGrant
