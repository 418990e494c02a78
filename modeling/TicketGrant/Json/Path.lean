/-!
# Places in a JSON document

A path leads from the root of a document to the value at which decoding or encoding stopped.
-/
namespace TicketGrant.Json

/-- One step down into a value. -/
inductive Segment where
  /-- Into the member of this name. -/
  | key (name : String)
  /-- Into the element at this index. -/
  | index (position : Nat)
  /-- To where a member should stand that could not be read. -/
  | unknown
deriving DecidableEq

/-- The steps from the root, the first one first. -/
abbrev Path := List Segment

/-- A step as it is written: names and the unknown member follow a point, except at the start. -/
def Segment.render (first : Bool) : Segment → String
  | .key name => if first then name else "." ++ name
  | .index position => "[" ++ toString position ++ "]"
  | .unknown => if first then "?" else ".?"

/-- A path as it is written; the root is a point. -/
def Path.render : Path → String
  | [] => "."
  | s :: rest => String.join (s.render true :: rest.map (Segment.render false))

end TicketGrant.Json
