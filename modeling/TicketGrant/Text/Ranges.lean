/-!
# Sets of code points

A set of code points is written as a text of ranges in hexadecimal, `start-end` or a single code
point, separated by white space and in increasing order. Membership is a binary search.
-/
namespace TicketGrant.Text

/-- A set of code points as increasing, disjoint ranges with both ends included. -/
structure Ranges where
  ranges : Array (Nat × Nat)

namespace Ranges

/-- The number that hexadecimal digits make; other characters count as zeros. -/
def hexNumber (digits : List Char) : Nat :=
  digits.foldl (fun n c =>
    n * 16 + (if c.isDigit then c.toNat - 48 else if c.toNat < 97 then 0 else c.toNat - 87)) 0

/-- A range as it is written. -/
def readRange (text : List Char) : Nat × Nat :=
  let low := hexNumber (text.takeWhile (· != '-'))
  match text.dropWhile (· != '-') with
  | _ :: high => (low, hexNumber high)
  | [] => (low, low)

/-- The words of a table: what stands between spaces and line ends. -/
def tableWords (text : String) : List (List Char) :=
  let step := fun (c : Char) (acc : List Char × List (List Char)) =>
    if c = ' ' ∨ c = '\n' then ([], if acc.1.isEmpty then acc.2 else acc.1 :: acc.2)
    else (c :: acc.1, acc.2)
  let (first, rest) := text.toList.foldr step ([], [])
  if first.isEmpty then rest else first :: rest

/-- Reads a table of ranges. -/
def ofTable (text : String) : Ranges := ⟨((tableWords text).map readRange).toArray⟩

/-- Whether `n` lies in one of the ranges `low`, …, `high - 1` of a table. -/
def search (ranges : Array (Nat × Nat)) (n low high : Nat) : Bool :=
  if low < high then
    let middle := (low + high) / 2
    match ranges[middle]? with
    | none => false
    | some (first, last) =>
      if n < first then search ranges n low middle
      else if last < n then search ranges n (middle + 1) high
      else true
  else false
termination_by high - low

/-- Whether a code point belongs to the set. -/
def contains (r : Ranges) (n : Nat) : Bool := search r.ranges n 0 r.ranges.size

end Ranges
end TicketGrant.Text
