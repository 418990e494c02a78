import TicketGrant.Json.Path

/-!
# Faults of documents

What a client tells of a body that it cannot read, or of a value that has no JSON form: the place.
-/
namespace TicketGrant.Json

/-- Why there is no value, or no document. -/
inductive Fault where
  /-- Reading stopped at this place. -/
  | decoding (place : Path)
  /-- Writing stopped at this place. -/
  | encoding (place : Path)
deriving DecidableEq

namespace Fault

/-- Where reading or writing stopped. -/
def place : Fault → Path
  | .decoding place => place
  | .encoding place => place

/-- What the fault tells. -/
def message : Fault → String
  | .decoding place => "Failed to decode JSON at \x60" ++ place.render ++ "\x60."
  | .encoding place => "Failed to encode JSON at \x60" ++ place.render ++ "\x60."

end Fault
end TicketGrant.Json
