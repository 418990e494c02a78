import TicketGrant.Json.Decoder
import TicketGrant.Json.Value

/-!
# Tables

An object with arbitrary names is read as a table: its entries in the order of their names, and the
last of several members with one name.
-/
namespace TicketGrant.Json

/-- Puts an entry where it belongs in a table; an older entry of its name gives way. -/
def insertEntry {α : Type} (entry : String × α) : List (String × α) → List (String × α)
  | [] => [entry]
  | other :: rest =>
    if entry.1 < other.1 then entry :: other :: rest
    else if other.1 < entry.1 then other :: insertEntry entry rest
    else entry :: rest

/-- The table of a list of entries. -/
def tabulate {α : Type} (entries : List (String × α)) : List (String × α) :=
  entries.foldl (fun table entry => insertEntry entry table) []

/-- A table in a JSON document. -/
def Decoder.table {α : Type} (decode : Decoder α) : Decoder (List (String × α)) := fun node =>
  (Decoder.map decode node).map tabulate

/-- A table as JSON. -/
def Value.table {α : Type} (toJson : α → Value) (entries : List (String × α)) : Value :=
  .record (entries.map fun entry => (entry.1, toJson entry.2))

end TicketGrant.Json
