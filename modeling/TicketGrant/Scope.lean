import TicketGrant.Json.Decoder
import TicketGrant.Json.Value
import TicketGrant.Outline
import TicketGrant.Text.Blank
import TicketGrant.Text.Ordered

/-!
# Scope sets

A scope is a non-empty text without white space; a scope set is an ordered set of scopes. On the
wire a set is one text: the scopes in order, a space between them in JSON documents and the
configured delimiter in form parameters. Granted scopes may come back with either separator.
-/
namespace TicketGrant

open Text

/-- Why a text is no scope. -/
inductive ScopeError where
  /-- The text is empty, or a scope list holds nothing but separators. -/
  | empty
  /-- The text holds white space. -/
  | containsBlank (scope : String)
deriving DecidableEq

/-- What the error tells. -/
def ScopeError.message : ScopeError → String
  | .empty => "Scope entries cannot be empty."
  | .containsBlank scope => "Scope contains whitespace: " ++ scope ++ "."

/-- A scope: at least one character, and no white space. -/
def IsScope (s : String) : Prop := s ≠ "" ∧ s.toList.all (fun c => !isBlank c) = true

instance (s : String) : Decidable (IsScope s) := inferInstanceAs (Decidable (_ ∧ _))

/-- A set of scopes, in the order of code points. -/
structure ScopeSet where
  /-- The scopes. -/
  scopes : Ordered
  /-- Each of them is a scope. -/
  valid : ∀ s ∈ scopes.toList, IsScope s
deriving DecidableEq

namespace ScopeSet

/-- The fault of a text that is to be a scope, if any. -/
def fault? (s : String) : Option ScopeError :=
  if s = "" then some .empty
  else if s.toList.any isBlank then some (.containsBlank s)
  else none

theorem fault?_eq_none_iff {s : String} : fault? s = none ↔ IsScope s := by
  unfold fault? IsScope
  split
  · simp_all
  · split <;> simp_all

/-- The first fault among the texts of a list, in their order. -/
def firstFault? (scopes : List String) : Option ScopeError := scopes.findSome? fault?

/-- The set without scopes. -/
def empty : ScopeSet := ⟨.empty, by simp [Ordered.toList, Ordered.empty]⟩

instance : Inhabited ScopeSet := ⟨empty⟩

/-- The set of the scopes of a list; the first fault in the list's order is the error. -/
def ofList (scopes : List String) : Except ScopeError ScopeSet :=
  match h : firstFault? scopes with
  | some e => .error e
  | none => .ok
    { scopes := .ofList scopes
      valid := fun s hs => by
        have := List.findSome?_eq_none_iff.1 h s (Ordered.mem_toList_ofList.1 hs)
        exact fault?_eq_none_iff.1 this }

/-- The scopes in order. -/
def toList (s : ScopeSet) : List String := s.scopes.toList

/-- How many scopes there are. -/
def size (s : ScopeSet) : Nat := s.scopes.size

/-- Whether there are no scopes. -/
def isEmpty (s : ScopeSet) : Bool := s.scopes.isEmpty

/-- Whether a text is one of the scopes. -/
def contains (s : ScopeSet) (scope : String) : Bool := s.scopes.contains scope

/-- A walk along the scopes of a set. -/
structure Walk where
  /-- The set. -/
  set : ScopeSet
  /-- How many scopes lie behind. -/
  place : Nat

/-- The walk before the first scope. -/
def walk (s : ScopeSet) : Walk := ⟨s, 0⟩

/-- The next scope, and the walk behind it. -/
def Walk.next? (w : Walk) : Option (String × Walk) :=
  match w.set.scopes.items[w.place]? with
  | none => none
  | some scope => some (scope, { w with place := w.place + 1 })

theorem Walk.lt_size_of_next? {w w' : Walk} {scope : String} (h : w.next? = some (scope, w')) :
    w.place < w.set.size ∧ w' = { w with place := w.place + 1 } := by
  unfold next? at h
  split at h
  · cases h
  · rename_i found hfound
    cases h
    exact ⟨(Array.getElem?_eq_some_iff.mp hfound).1, rfl⟩

/-- The scopes that lie ahead, one step after the other. -/
def Walk.rest (w : Walk) : List String :=
  match h : w.next? with
  | none => []
  | some (scope, next) =>
    have := lt_size_of_next? h
    scope :: next.rest
termination_by w.set.size - w.place
decreasing_by
  obtain ⟨hlt, rfl⟩ := this
  show w.set.size - (w.place + 1) < w.set.size - w.place
  omega

/-- The scopes with a delimiter between them; nothing for the empty set. -/
def delimited (s : ScopeSet) (delimiter : Char) : Option String :=
  if s.isEmpty then none else some (String.intercalate delimiter.toString s.toList)

/-- The scopes with a space between them. -/
def normalized (s : ScopeSet) : String := String.intercalate " " s.toList

/-- Reads a scope list that is separated by white space. The empty text is the empty set; a text
of white space alone is an error. -/
def ofString (raw : String) : Except ScopeError ScopeSet :=
  if raw = "" then .ok empty
  else if raw.toList.all isBlank then .error .empty
  else ofList ((words isBlank raw.toList).map String.ofList)

/-- Reads a granted scope list, in which the delimiter separates as well as white space. -/
def ofDelimited (raw : String) (delimiter : Char) : Except ScopeError ScopeSet :=
  if raw = "" then .ok empty
  else
    let scopes := (pieces (fun c => c == delimiter || isBlank c) raw.toList).filter (!·.isEmpty)
    if scopes.isEmpty then .error .empty else ofList (scopes.map String.ofList)

/-- Sets are compared as their lists are: by the first scope in which they differ. -/
def compare (a b : ScopeSet) : Ordering :=
  if a.toList < b.toList then .lt else if b.toList < a.toList then .gt else .eq

/-- What is shown of a scope set. -/
def outline (s : ScopeSet) : Outline :=
  .tuple "ScopeSet" [.list (s.toList.map .text)]

/-- A scope set in a JSON document is one text. -/
def decode : Json.Decoder ScopeSet :=
  Json.Decoder.text.filterMap fun raw => (ofString raw).toOption

/-- A scope set as JSON. -/
def toJson (s : ScopeSet) : Json.Value := .text s.normalized

end ScopeSet
end TicketGrant
