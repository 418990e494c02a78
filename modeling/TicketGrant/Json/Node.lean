/-!
# JSON documents as they are read

A document is read once into a tree, and reading stops at the first byte that no JSON text can
hold there. The tree keeps what was read until then: an unreadable value is `broken`, and a list
or an object says how it ended. A node is sound when it is a whole JSON value.
-/
namespace TicketGrant.Json

/-- How a list or an object ended. -/
inductive Ending where
  /-- With its bracket. -/
  | closed
  /-- Reading stopped inside of it. -/
  | cut
  /-- Reading stopped between the name of a member and its value. -/
  | noColon
deriving DecidableEq

/-- A JSON value as it was read. A text that is well formed but spells no Unicode text, as with
half of a surrogate pair, has no content; neither has a member's name then. -/
inductive Node where
  | null
  | bool (value : Bool)
  /-- A numeral; it has a value if it is written as an integer. -/
  | number (value : Option Int)
  | text (content : Option String)
  | list (items : List Node) (ending : Ending)
  | object (members : List (Option String × Node)) (ending : Ending)
  /-- No value could be read. -/
  | broken
deriving Inhabited

/-- Whether the node is a whole value. Reading stops at the first fault, so only the outermost
ending has to be looked at. -/
def Node.isSound : Node → Bool
  | .broken => false
  | .list _ ending => ending == .closed
  | .object _ ending => ending == .closed
  | _ => true

end TicketGrant.Json
