import TicketGrant.Proofs.Pieces
import TicketGrant.Scope

/-!
# Scope lists undone

The scopes of a set, written with a separator between them and cut at white space again, are the
same scopes: none of them is empty or holds a separator. They come in increasing order and each
once, so the set that is built from them is the one they were taken from.
-/
namespace TicketGrant

open Text

namespace Text

theorem place_eq_cons {x : String} {ys : List String} (h : ∀ y ∈ ys, x < y) :
    place x ys = x :: ys := by
  cases ys with
  | nil => rfl
  | cons y ys => rw [place, if_pos (h y List.mem_cons_self)]

/-- A set is the set of its elements. -/
@[simp] theorem Ordered.ofList_toList (s : Ordered) : Ordered.ofList s.toList = s := by
  have hfold {ys : List String} (hys : ys.Pairwise (· < ·)) : ys.foldr place [] = ys := by
    induction ys with
    | nil => rfl
    | cons y ys ih =>
      obtain ⟨hy, hys⟩ := List.pairwise_cons.mp hys
      rw [List.foldr_cons, ih hys, place_eq_cons hy]
  obtain ⟨items, sorted⟩ := s
  simp only [Ordered.ofList, Ordered.toList, hfold sorted, Array.toArray_toList]

end Text

namespace ScopeSet

/-- The elements of a set are those of the list that it was built from. -/
theorem mem_toList_of_ofList {s : ScopeSet} {scopes : List String} (h : ofList scopes = .ok s)
    {scope : String} : scope ∈ s.toList ↔ scope ∈ scopes := by
  rw [ofList] at h
  split at h
  · cases h
  · cases h
    exact Ordered.mem_toList_ofList

theorem ofList_toList (s : ScopeSet) : ofList s.toList = .ok s := by
  have hnone : firstFault? s.toList = none :=
    List.findSome?_eq_none_iff.mpr fun scope hscope => fault?_eq_none_iff.mpr (s.valid scope hscope)
  have hset {scopes : Ordered} (valid) (h : scopes = s.scopes) :
      (⟨scopes, valid⟩ : ScopeSet) = s := by
    subst h
    rfl
  rw [ofList]
  split
  · simp_all
  · exact congrArg Except.ok (hset _ (Ordered.ofList_toList s.scopes))

theorem toList_normalized (s : ScopeSet) :
    s.normalized.toList = [' '].intercalate (s.toList.map String.toList) := by
  rw [normalized, String.toList_intercalate]
  rfl

/-- A scope has characters, and none of them is white space. -/
theorem of_mem_map_toList {s : ScopeSet} {word : List Char}
    (h : word ∈ s.toList.map String.toList) : word ≠ [] ∧ ∀ c ∈ word, isBlank c = false := by
  obtain ⟨scope, hscope, rfl⟩ := List.mem_map.mp h
  obtain ⟨hne, hblank⟩ := s.valid scope hscope
  refine ⟨fun hnil => hne (String.toList_eq_nil_iff.mp hnil), fun c hc => ?_⟩
  simpa using List.all_eq_true.mp hblank c hc

@[simp] theorem map_ofList_map_toList (scopes : List String) :
    (scopes.map String.toList).map String.ofList = scopes := by
  rw [List.map_map]
  exact List.map_id'' (fun scope => String.ofList_toList) scopes

/-- The written scopes are cut into the scopes. -/
theorem words_normalized (s : ScopeSet) :
    (words isBlank s.normalized.toList).map String.ofList = s.toList := by
  have hwords : words isBlank s.normalized.toList = s.toList.map String.toList := by
    rw [toList_normalized]
    exact words_intercalate (by decide) fun word => of_mem_map_toList
  rw [hwords, map_ofList_map_toList]

/-- Only the empty set is written with nothing but white space. -/
theorem all_isBlank_normalized {s : ScopeSet} (h : s.normalized.toList.all isBlank = true) :
    s.toList = [] := by
  rw [← words_normalized s, words_eq_nil_iff.mpr (List.all_eq_true.mp h), List.map_nil]

/-- A set is read back from its scopes with a space between them. -/
theorem ofString_normalized (s : ScopeSet) : ofString s.normalized = .ok s := by
  rw [ofString, words_normalized, ofList_toList]
  by_cases hempty : s.toList = []
  · have htext : s.normalized = "" := by rw [normalized, hempty]; rfl
    have hset : s = empty := by
      have hlist : ofList [] = Except.ok s := hempty ▸ ofList_toList s
      exact (Except.ok.inj hlist).symm
    rw [if_pos htext, hset]
  · have htext : s.normalized ≠ "" := fun heq => hempty (all_isBlank_normalized (by simp [heq]))
    rw [if_neg htext, if_neg fun hall => hempty (all_isBlank_normalized hall)]

end ScopeSet
end TicketGrant
