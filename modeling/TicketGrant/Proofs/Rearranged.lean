import TicketGrant.Config
import TicketGrant.Grant.Challenge
import TicketGrant.Grant.Refusal
import TicketGrant.Grant.Token
import TicketGrant.Metadata
import TicketGrant.Proofs.Json.Members
import TicketGrant.Proofs.Json.Written

/-!
# Members in any order

The text of an object is its members, each in whatever spelling, with commas between them. Every
record that is read from a server or a file makes the same of an object text whatever the order of
its members is, and whatever members stand among them that the record does not declare
(`records_overlook_order`).
-/
namespace TicketGrant

namespace Json

/-- A member as it stands in an object text: its name, and the text of a value. -/
structure MemberText where
  name : String
  /-- What the value says. -/
  node : Node
  bytes : Bytes
  spelled : Spells (.member (some name, node)) bytes

/-- An object text of some members. -/
def objectText (members : List MemberText) : Bytes :=
  0x7B :: ([0x2C].intercalate (members.map (·.bytes)) ++ [0x7D])

/-- What an object text of some members says. -/
def MemberText.nodes (members : List MemberText) : List (Option String × Node) :=
  members.map fun m => (some m.name, m.node)

theorem Spells.intercalate {before : List (Option String × Node)} {bytes : Bytes}
    (h : Spells (.members before) bytes) (members : List MemberText) :
    Spells (.members (before ++ MemberText.nodes members))
      ([0x2C].intercalate (bytes :: members.map (·.bytes))) := by
  induction members generalizing before bytes with
  | nil => simpa [MemberText.nodes] using h
  | cons m members ih =>
    have hmore := ih (.members h m.spelled)
    have hbytes : [0x2C].intercalate ((bytes ++ 0x2C :: m.bytes) :: members.map (·.bytes)) =
        [0x2C].intercalate (bytes :: m.bytes :: members.map (·.bytes)) := by
      cases members <;> simp
    rw [hbytes] at hmore
    simpa [MemberText.nodes] using hmore

/-- An object text spells the object of its members. -/
theorem spells_objectText (members : List MemberText) :
    Spells (.padded (.object (MemberText.nodes members) .closed)) (objectText members) := by
  cases members with
  | nil => exact (Spells.emptyObject isBlank_nil).unpadded
  | cons m members => exact (Spells.object ((Spells.member m.spelled).intercalate members)).unpadded

/-- A record makes the same of an object text if its members are put into another order, and if members
are put among them that the record does not declare. -/
def Record.OverlooksOrder {α : Type} (record : Record α) : Prop :=
  ∀ members undeclared other : List MemberText,
    (∀ m ∈ undeclared, m.name ∉ record.slots.map (·.name)) →
    other.Perm (members ++ undeclared) →
    (Codec.plain.decode record.decode (objectText other)).toOption =
      (Codec.plain.decode record.decode (objectText members)).toOption

theorem toOption_decode_objectText {α : Type} (record : Record α) (members : List MemberText) :
    (Codec.plain.decode record.decode (objectText members)).toOption =
      (record.decode (.object (MemberText.nodes members) .closed)).toOption := by
  rw [Codec.plain_decode, Json.decode, read_of_spells (spells_objectText members)]
  cases record.decode (.object (MemberText.nodes members) .closed) <;> rfl

/-- A record that looks for its own fields only overlooks the order of the members. -/
theorem Record.IsLocal.overlooksOrder {α : Type} {record : Record α} (h : record.IsLocal) :
    record.OverlooksOrder := by
  intro members undeclared other hundeclared hperm
  rw [toOption_decode_objectText, toOption_decode_objectText]
  have hnodes : (MemberText.nodes other).Perm
      (MemberText.nodes members ++ MemberText.nodes undeclared) := by
    rw [MemberText.nodes, MemberText.nodes, MemberText.nodes, ← List.map_append]
    exact hperm.map _
  refine toOption_decode_of_perm h hnodes fun node hnode => ?_
  obtain ⟨m, hm, rfl⟩ := List.mem_map.mp hnode
  refine ⟨m.name, rfl, fun slot hslot heq => ?_, m.spelled.isSound_member⟩
  exact hundeclared m hm (List.mem_map.mpr ⟨slot, hslot, heq⟩)

/-- The text of a member that is written. -/
def MemberText.ofValue (name : String) (v : Value) : MemberText :=
  ⟨name, v.node, _, spells_member (.text name) v.spells_write⟩

end Json

open Json

/-- The order of members, and members that it does not declare, do not matter to any record that is
read from a server or a file: an error body, a demand for claims and each of its claims, a token answer,
a metadata document and a configuration. -/
theorem records_overlook_order :
    Refusal.record.OverlooksOrder ∧ ChallengeAnswer.record.OverlooksOrder ∧
      RequiredClaim.record.OverlooksOrder ∧ TokenAnswer.record.OverlooksOrder ∧
      Metadata.record.OverlooksOrder ∧ Config.record.OverlooksOrder := by
  -- Each record is a constructor applied to fields, one after the other.
  refine ⟨?_, ?_, ?_, ?_, ?_, ?_⟩ <;>
    refine Record.IsLocal.overlooksOrder ?_ <;>
    repeat' first
      | exact Record.isLocal_field _ _ _ _
      | exact Record.isLocal_pure _
      | refine Record.IsLocal.seq ?_ ?_

/-- Members that were moved, and others between them that a token answer does not declare. -/
theorem tokenAnswer_overlooks_order :
    let accessToken := MemberText.ofValue "access_token" (.text "rpt")
    let tokenType := MemberText.ofValue "token_type" (.text "DPoP")
    let nested := MemberText.ofValue "x" (.list [.list [.record [("pct", .null)]]])
    let repeated := MemberText.ofValue "x" (.integer 1)
    (Codec.plain.decode TokenAnswer.record.decode
        (objectText [nested, tokenType, repeated, accessToken])).toOption =
      some ⟨some "rpt", some "DPoP", none, none, none, none, none⟩ := by
  intro accessToken tokenType nested repeated
  have hperm : [nested, tokenType, repeated, accessToken].Perm
      ([accessToken, tokenType] ++ [nested, repeated]) :=
    (@List.perm_middle _ accessToken [nested, tokenType, repeated] []).trans
      (.cons _ (@List.perm_middle _ tokenType [nested] [repeated]))
  have hsame := records_overlook_order.2.2.2.1 _ _ _ (by decide) hperm
  rw [hsame, toOption_decode_objectText]
  rfl

end TicketGrant
