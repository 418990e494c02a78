import TicketGrant.Json.Path
import TicketGrant.Json.Reader

/-!
# Decoding JSON values

A decoder takes a node to a value or to the place of the first fault, in the order in which the
parts stand in the document. Records are described field by field; a record is read from an object
or, with its fields in their declared order, from a list. Members that no field declares are
skipped, but must be whole; a declared member may stand once.
-/
namespace TicketGrant.Json

/-- Decodes a node, or names the place where that fails. -/
abbrev Decoder (α : Type) := Node → Except Path α

namespace Decoder

/-- Puts a fault one step further down. -/
def inside {α : Type} (segment : Segment) (result : Except Path α) : Except Path α :=
  result.mapError (segment :: ·)

/-- A value that a partial function finds in a decoded one. -/
def filterMap {α β : Type} (decode : Decoder α) (f : α → Option β) : Decoder β := fun node => do
  match f (← decode node) with
  | some b => .ok b
  | none => .error []

/-- A text. -/
def text : Decoder String
  | .text (some content) => .ok content
  | _ => .error []

/-- A truth value. -/
def bool : Decoder Bool
  | .bool value => .ok value
  | _ => .error []

/-- An integer between two bounds. -/
def integer (low high : Int) : Decoder Int
  | .number (some value) => if low ≤ value ∧ value ≤ high then .ok value else .error []
  | _ => .error []

/-- A value, or nothing for `null`. -/
def nullable {α : Type} (decode : Decoder α) : Decoder (Option α)
  | .null => .ok none
  | node => (decode node).map some

/-- The elements of a list, counted from `position`. -/
def items {α : Type} (decode : Decoder α) (position : Nat) : List Node → Except Path (List α)
  | [] => .ok []
  | node :: rest => do
    let first ← inside (.index position) (decode node)
    let more ← items decode (position + 1) rest
    .ok (first :: more)

/-- A list. -/
def list {α : Type} (decode : Decoder α) : Decoder (List α)
  | .list nodes ending => do
    let values ← items decode 0 nodes
    if ending = .closed then .ok values else .error []
  | _ => .error []

/-- Where an object that did not end with its bracket is at fault. -/
def endingFault? : Ending → Option Path
  | .closed => none
  | .cut => some [.unknown]
  | .noColon => some []

/-- The members of a map with arbitrary names. -/
def members {α : Type} (decode : Decoder α) :
    List (Option String × Node) → Except Path (List (String × α))
  | [] => .ok []
  | (none, _) :: _ => .error [.unknown]
  | (some name, node) :: rest => do
    let first ← inside (.key name) (decode node)
    let more ← members decode rest
    .ok ((name, first) :: more)

/-- A map with arbitrary names, in the order of the document. -/
def map {α : Type} (decode : Decoder α) : Decoder (List (String × α))
  | .object nodes ending => do
    let values ← members decode nodes
    match endingFault? ending with
    | none => .ok values
    | some path => .error path
  | _ => .error []

/-- One of several names. A name may also stand as the only member of an object, with `null`. -/
def choice {α : Type} (choose : String → Option α) : Decoder α
  | .text (some name) =>
    match choose name with
    | some a => .ok a
    | none => .error []
  | .object ((some name, payload) :: rest) ending =>
    match choose name, payload with
    | none, _ => .error []
    | some a, .null => if rest.isEmpty ∧ ending = .closed then .ok a else .error []
    | some _, _ => .error [.key name]
  | _ => .error []

end Decoder

/-- What decoding a record needs to know about a field before its value is wanted. -/
structure Slot where
  name : String
  /-- The fault of a node that is to be this field. -/
  check : Node → Except Path Unit
  /-- Whether a list may end before this field. -/
  elidable : Bool

/-- A record that is decoded field by field. -/
structure Record (α : Type) where
  /-- The declared fields in their order. -/
  slots : List Slot
  /-- The record, from the nodes that were found for the fields. -/
  build : (String → Option Node) → Except Path α

namespace Record

/-- A record of one field. `absent` is its value in an object without it; a list may end before it
if `elidable`. -/
def field {α : Type} (name : String) (decode : Decoder α) (absent : Option α) (elidable : Bool) :
    Record α where
  slots := [⟨name, fun node => (decode node).map fun _ => (), elidable⟩]
  build find :=
    match find name, absent with
    | some node, _ => decode node
    | none, some a => .ok a
    | none, none => .error []

/-- A field that must be there. -/
def required {α : Type} (name : String) (decode : Decoder α) : Record α :=
  field name decode none false

/-- A field with a default. -/
def defaulted {α : Type} (name : String) (decode : Decoder α) (default : α) : Record α :=
  field name decode (some default) true

/-- A field that may be `null` or missing, but not from a list. -/
def optional {α : Type} (name : String) (decode : Decoder α) : Record (Option α) :=
  field name decode.nullable (some none) false

instance : Applicative Record where
  pure a := ⟨[], fun _ => .ok a⟩
  seq f x := ⟨f.slots ++ (x ()).slots, fun find => do
    let g ← f.build find
    let a ← (x ()).build find
    .ok (g a)⟩

/-- Checks the members of an object in their order. Fields found before are in `seen`. -/
def checkMembers (slots : List Slot) (seen : List String) :
    List (Option String × Node) → Except Path Unit
  | [] => .ok ()
  | (none, _) :: _ => .error [.unknown]
  | (some name, node) :: rest =>
    match slots.find? (·.name == name) with
    | some slot =>
      if seen.contains name then .error []
      else do
        Decoder.inside (.key name) (slot.check node)
        checkMembers slots (name :: seen) rest
    | none =>
      if node.isSound then checkMembers slots seen rest else .error [.key name]

/-- The node of the first member with a name. -/
def lookup (members : List (Option String × Node)) (name : String) : Option Node :=
  (members.find? (·.1 == some name)).map (·.2)

/-- Checks the elements of a list against the fields in their order. -/
def checkItems : List Slot → Nat → List Node → Except Path Unit
  | [], _, [] => .ok ()
  | [], _, _ :: _ => .error []
  | slots, _, [] => if slots.all (·.elidable) then .ok () else .error []
  | slot :: slots, position, node :: rest => do
    Decoder.inside (.index position) (slot.check node)
    checkItems slots (position + 1) rest

/-- The decoder of a record. -/
def decode {α : Type} (record : Record α) : Decoder α
  | .object members ending => do
    checkMembers record.slots [] members
    match Decoder.endingFault? ending with
    | some path => .error path
    | none => record.build (lookup members)
  | .list items ending => do
    checkItems record.slots 0 items
    if ending = .closed then
      record.build (lookup ((record.slots.map (some ·.name)).zip items))
    else .error []
  | _ => .error []

end Record

/-- Decodes a document: the root first, and then nothing may follow it. -/
def decode {α : Type} (decoder : Decoder α) (bytes : Bytes) : Except Path α := do
  let document := read bytes
  let value ← decoder document.root
  if document.ended then .ok value else .error []

end TicketGrant.Json
