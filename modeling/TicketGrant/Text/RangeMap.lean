import TicketGrant.Text.Ranges

/-!
# Maps from code points

A map is written as a text of entries, `start-end:value` or `start:value`, separated by white space
and in increasing order. Look-up is a binary search.
-/
namespace TicketGrant.Text

/-- A map that has a value for each of some disjoint, increasing ranges of code points. -/
structure RangeMap (α : Type) where
  entries : Array (Nat × Nat × α)

namespace RangeMap

/-- Reads a table; `value` reads what stands behind the colon. -/
def ofTable {α : Type} (value : List Char → α) (text : String) : RangeMap α where
  entries := ((Ranges.tableWords text).map fun entry =>
    let (first, last) := Ranges.readRange (entry.takeWhile (· != ':'))
    (first, last, value ((entry.dropWhile (· != ':')).drop 1))).toArray

/-- The entry for `n` among the entries `low`, …, `high - 1`. -/
def search {α : Type} (entries : Array (Nat × Nat × α)) (n low high : Nat) :
    Option (Nat × Nat × α) :=
  if low < high then
    let middle := (low + high) / 2
    match entries[middle]? with
    | none => none
    | some (first, last, a) =>
      if n < first then search entries n low middle
      else if last < n then search entries n (middle + 1) high
      else some (first, last, a)
  else none
termination_by high - low

/-- The start of the range in which a code point lies, and the value there. -/
def entry? {α : Type} (m : RangeMap α) (n : Nat) : Option (Nat × α) :=
  (search m.entries n 0 m.entries.size).map fun e => (e.1, e.2.2)

/-- The value for a code point. -/
def find? {α : Type} (m : RangeMap α) (n : Nat) : Option α := (m.entry? n).map (·.2)

end RangeMap
end TicketGrant.Text
