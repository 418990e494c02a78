import TicketGrant.Json.Decoder
import TicketGrant.Json.Fault
import TicketGrant.Json.Value

/-!
# Bodies and their documents

A body holds one JSON document. Some servers put a guard in front of it, so that browsers cannot
run the body as a script; how to open a body is therefore the client's choice.
-/
namespace TicketGrant

/-- How a body is opened. -/
structure Codec where
  /-- The document in a body, or the place to name in its absence. -/
  document : Bytes → Except Json.Path Bytes

namespace Codec

/-- The body is the document. -/
def plain : Codec := ⟨.ok⟩

/-- What is left of a sequence behind another with which it starts. -/
def behind? (start : Bytes) (body : Bytes) : Option Bytes :=
  if body.take start.length = start then some (body.drop start.length) else none

/-- The body is a guard and then the document. Without the guard the fault is at `place`. -/
def guarded (mark : Bytes) (place : Json.Path) : Codec where
  document body :=
    match behind? mark body with
    | some document => .ok document
    | none => .error place

/-- The value in a body. -/
def decode {α : Type} (codec : Codec) (decoder : Json.Decoder α) (body : Bytes) :
    Except Json.Fault α := do
  let document ← (codec.document body).mapError .decoding
  (Json.decode decoder document).mapError .decoding

theorem plain_decode {α : Type} (decoder : Json.Decoder α) (body : Bytes) :
    plain.decode decoder body = (Json.decode decoder body).mapError .decoding := rfl

theorem plain_decode_eq_ok_iff {α : Type} {decoder : Json.Decoder α} {body : Bytes} {a : α} :
    plain.decode decoder body = .ok a ↔ Json.decode decoder body = .ok a := by
  rw [plain_decode]
  cases Json.decode decoder body with
  | error place => exact iff_of_false nofun nofun
  | ok value => exact ⟨fun h => congrArg _ (Except.ok.inj h), fun h => congrArg _ (Except.ok.inj h)⟩

end Codec

/-- The JSON document of a value. -/
def Json.encode (value : Json.Value) : Except Json.Fault String :=
  match value.fault? with
  | some place => .error (.encoding place)
  | none => .ok value.render

end TicketGrant
