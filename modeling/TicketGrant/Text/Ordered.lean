/-!
# Ordered sets of texts

A set of texts is kept as a strictly increasing array, in the order of code points. Two sets with
the same elements are the same array, whatever order and repetition they were built from, and
membership is a binary search.
-/
namespace TicketGrant.Text

/-- Puts a text where it belongs in an increasing list, unless it is there already. -/
def place (x : String) : List String → List String
  | [] => [x]
  | y :: ys => if x < y then x :: y :: ys else if y < x then y :: place x ys else y :: ys

theorem mem_place {x z : String} {ys : List String} : z ∈ place x ys ↔ z = x ∨ z ∈ ys := by
  induction ys with
  | nil => simp [place]
  | cons y ys ih =>
    unfold place
    split
    · simp
    · split
      · simp [ih, or_left_comm]
      · rename_i hxy hyx
        have : x = y := String.le_antisymm (String.not_lt.1 hyx) (String.not_lt.1 hxy)
        simp [this]

theorem pairwise_place {x : String} {ys : List String} (h : ys.Pairwise (· < ·)) :
    (place x ys).Pairwise (· < ·) := by
  induction ys with
  | nil => simp [place]
  | cons y ys ih =>
    have ⟨hy, hys⟩ := List.pairwise_cons.1 h
    unfold place
    split
    · rename_i hxy
      refine List.pairwise_cons.2 ⟨fun z hz => ?_, h⟩
      rcases List.mem_cons.1 hz with rfl | hz
      · exact hxy
      · exact String.lt_trans hxy (hy z hz)
    · split
      · rename_i hyx
        refine List.pairwise_cons.2 ⟨fun z hz => ?_, ih hys⟩
        rcases mem_place.1 hz with rfl | hz
        · exact hyx
        · exact hy z hz
      · exact h

/-- A finite set of texts, in increasing order. -/
structure Ordered where
  /-- The elements. -/
  items : Array String
  /-- Each element is below the next. -/
  sorted : items.toList.Pairwise (· < ·)
deriving DecidableEq

namespace Ordered

/-- The elements in increasing order. -/
def toList (s : Ordered) : List String := s.items.toList

/-- The set without elements. -/
def empty : Ordered := ⟨#[], List.Pairwise.nil⟩

instance : Inhabited Ordered := ⟨empty⟩

/-- The distinct elements of a list. -/
def ofList (xs : List String) : Ordered where
  items := (xs.foldr place []).toArray
  sorted := by
    induction xs with
    | nil => exact List.Pairwise.nil
    | cons x xs ih => exact pairwise_place ih

/-- How many elements there are. -/
def size (s : Ordered) : Nat := s.items.size

/-- Whether there are no elements. -/
def isEmpty (s : Ordered) : Bool := s.items.isEmpty

/-- Whether `x` stands at one of the places `low`, …, `high - 1` of an increasing array: the
middle one is compared, and one half is searched on. -/
def search (items : Array String) (x : String) (low high : Nat) : Bool :=
  if low < high then
    let middle := (low + high) / 2
    match items[middle]? with
    | none => false
    | some y =>
      if x < y then search items x low middle
      else if y < x then search items x (middle + 1) high
      else true
  else false
termination_by high - low

/-- Whether a text is an element. -/
def contains (s : Ordered) (x : String) : Bool := search s.items x 0 s.items.size

@[simp] theorem mem_toList_ofList {x : String} {xs : List String} :
    x ∈ (ofList xs).toList ↔ x ∈ xs := by
  simp only [toList, ofList]
  induction xs with
  | nil => simp
  | cons y ys ih => simpa [mem_place] using or_congr_right (by simpa using ih)

/-! ### Membership -/

theorem lt_of_getElem? (s : Ordered) {i j : Nat} {x y : String} (hx : s.items[i]? = some x)
    (hy : s.items[j]? = some y) (h : i < j) : x < y := by
  obtain ⟨hi, rfl⟩ := Array.getElem?_eq_some_iff.mp hx
  obtain ⟨hj, rfl⟩ := Array.getElem?_eq_some_iff.mp hy
  exact List.pairwise_iff_getElem.mp s.sorted i j hi hj h

/-- A search finds what stands at its places: the half that it leaves out holds smaller or larger
texts only. -/
theorem search_eq_true_iff (s : Ordered) (x : String) (low high : Nat)
    (hhigh : high ≤ s.items.size) :
    search s.items x low high = true ↔ ∃ i, low ≤ i ∧ i < high ∧ s.items[i]? = some x := by
  fun_induction search s.items x low high with
  | case1 low high h middle hnone =>
    have : s.items.size ≤ middle := Array.getElem?_eq_none_iff.mp hnone
    omega
  | case2 low high h middle y hy hxy ih =>
    rw [ih (by omega)]
    refine ⟨fun ⟨i, hlow, hlt, hx⟩ => ⟨i, hlow, by omega, hx⟩, fun ⟨i, hlow, hlt, hx⟩ => ?_⟩
    refine ⟨i, hlow, Nat.lt_of_not_le fun hle => ?_, hx⟩
    -- from the middle on everything is above `x`
    rcases Nat.eq_or_lt_of_le hle with rfl | hlt
    · exact String.lt_irrefl x (by simp_all)
    · exact String.lt_asymm hxy (s.lt_of_getElem? hy hx hlt)
  | case3 low high h middle y hy hxy hyx ih =>
    rw [ih hhigh]
    refine ⟨fun ⟨i, hlow, hlt, hx⟩ => ⟨i, by omega, hlt, hx⟩, fun ⟨i, hlow, hlt, hx⟩ => ?_⟩
    refine ⟨i, Nat.lt_of_not_le fun hle => ?_, hlt, hx⟩
    rcases Nat.eq_or_lt_of_le hle with rfl | hlt
    · exact String.lt_irrefl x (by simp_all)
    · exact String.lt_asymm hyx (s.lt_of_getElem? hx hy hlt)
  | case4 low high h middle y hy hxy hyx =>
    have heq : y = x := String.le_antisymm (String.not_lt.mp hxy) (String.not_lt.mp hyx)
    exact ⟨fun _ => ⟨middle, by omega, by omega, heq ▸ hy⟩, fun _ => rfl⟩
  | case5 low high h =>
    refine ⟨fun hfalse => absurd hfalse (by decide), fun ⟨i, hlow, hlt, _⟩ => ?_⟩
    omega

/-- What is found is what is in the set. -/
@[simp] theorem contains_eq_true_iff {s : Ordered} {x : String} :
    s.contains x = true ↔ x ∈ s.toList := by
  rw [contains, s.search_eq_true_iff x 0 s.items.size (Nat.le_refl _), toList,
    List.mem_iff_getElem?]
  refine ⟨fun ⟨i, _, _, hx⟩ => ⟨i, by simpa using hx⟩, fun ⟨i, hx⟩ => ?_⟩
  rw [Array.getElem?_toList] at hx
  exact ⟨i, Nat.zero_le i, (Array.getElem?_eq_some_iff.mp hx).1, hx⟩

end Ordered
end TicketGrant.Text
