import Mathlib.Data.List.Sort
import TicketGrant.Proofs.Encoding.Utf8
import TicketGrant.Proofs.Scopes

/-!
# Scope sets and their elements

A list of texts makes a scope set if all of them are scopes; otherwise the first one that is none is
named. A set is known by its elements alone: it has each of them once, in the order of code points,
so two sets with the same elements are equal, whatever lists they were made from. The search by
halves, the size and a walk along the set all tell of the same elements (`scopes_of_lists`).
-/
namespace TicketGrant

open Text

namespace Text.Ordered

theorem eq_of_mem_iff {a b : Ordered} (h : ∀ x, x ∈ a.toList ↔ x ∈ b.toList) : a = b := by
  have hlist : a.toList = b.toList := a.sorted.eq_of_mem_iff b.sorted h
  rw [← ofList_toList a, ← ofList_toList b, hlist]

/-- Texts in their order have their code points in the order of lists of numbers. -/
theorem codePoints_lt {a b : String} (h : a < b) :
    a.toList.map Char.toNat < b.toList.map Char.toNat :=
  List.map_lt (fun _ _ hlt => hlt) (String.lt_iff.mp h)

end Text.Ordered

namespace ScopeSet

variable {s s' : ScopeSet} {texts texts' : List String} {text : String} {fault : ScopeError}

/-! ### Texts that are no scopes -/

/-- A text is no scope, for this reason. -/
inductive Refuses : String → ScopeError → Prop
  | empty : Refuses "" .empty
  | blank {text : String} {c : Char} : c ∈ text.toList → isBlank c = true →
      Refuses text (.containsBlank text)

theorem fault?_eq_some_iff : fault? text = some fault ↔ Refuses text fault := by
  constructor
  · intro h
    rw [fault?] at h
    split at h
    · subst_vars
      cases h
      exact .empty
    split at h
    · rename_i hblank
      cases h
      obtain ⟨c, hc, hisBlank⟩ := List.any_eq_true.mp hblank
      exact .blank hc hisBlank
    · cases h
  · rintro (_ | ⟨hc, hblank⟩)
    · rfl
    · have hne : text ≠ "" := by
        rintro rfl
        cases hc
      rw [fault?, if_neg hne, if_pos (List.any_eq_true.mpr ⟨_, hc, hblank⟩)]

theorem ofList_eq_error_iff : ofList texts = .error fault ↔ firstFault? texts = some fault := by
  rw [ofList]
  split
  · rename_i found hfound
    rw [hfound, Except.error.injEq, Option.some.injEq]
  · rename_i hnone
    simp [hnone]

theorem exists_ofList_iff : (∃ s, ofList texts = .ok s) ↔ ∀ text ∈ texts, IsScope text := by
  have hnone : firstFault? texts = none ↔ ∀ text ∈ texts, IsScope text := by
    rw [firstFault?, List.findSome?_eq_none_iff]
    exact forall₂_congr fun text _ => fault?_eq_none_iff
  rw [← hnone]
  cases hmake : ofList texts with
  | ok s =>
    have hno : ∀ fault, firstFault? texts ≠ some fault := fun fault hfault => by
      rw [ofList_eq_error_iff.mpr hfault] at hmake
      cases hmake
    simpa using Option.eq_none_iff_forall_ne_some.mpr hno
  | error fault => simp [ofList_eq_error_iff.mp hmake]

/-- The fault is that of the first text that is no scope. -/
theorem ofList_eq_error_iff_exists :
    ofList texts = .error fault ↔
      ∃ before text after, texts = before ++ text :: after ∧
        (∀ earlier ∈ before, IsScope earlier) ∧ Refuses text fault := by
  rw [ofList_eq_error_iff, firstFault?, List.findSome?_eq_some_iff]
  refine exists_congr fun before => exists₂_congr fun text after => and_congr_right fun _ => ?_
  rw [fault?_eq_some_iff, and_comm]
  exact and_congr_left fun _ => forall₂_congr fun earlier _ => fault?_eq_none_iff

/-! ### Sets by their elements -/

theorem eq_of_mem_iff (h : ∀ scope, scope ∈ s.toList ↔ scope ∈ s'.toList) : s = s' := by
  have hscopes : s.scopes = s'.scopes := Ordered.eq_of_mem_iff h
  cases s
  cases s'
  cases hscopes
  rfl

theorem eq_iff_of_ofList (h : ofList texts = .ok s) (h' : ofList texts' = .ok s') :
    s = s' ↔ ∀ text, text ∈ texts ↔ text ∈ texts' := by
  have hmem (text : String) : (text ∈ s.toList ↔ text ∈ s'.toList) ↔
      (text ∈ texts ↔ text ∈ texts') := by
    rw [mem_toList_of_ofList h, mem_toList_of_ofList h']
  rw [← forall_congr' hmem]
  exact ⟨fun heq text => by rw [heq], eq_of_mem_iff⟩

/-! ### Walks -/

/-- A step of a walk tells the scope in its place. -/
theorem Walk.getElem?_of_next? {w next : Walk} {scope : String}
    (h : w.next? = some (scope, next)) : w.set.toList[w.place]? = some scope := by
  rw [next?] at h
  split at h
  · cases h
  · rename_i hscope
    cases h
    rw [← hscope]
    exact Array.getElem?_toList

/-- A walk ends behind the last scope. -/
theorem Walk.length_le_of_next? {w : Walk} (h : w.next? = none) :
    w.set.toList.length ≤ w.place := by
  rw [next?] at h
  split at h
  · rename_i hnone
    exact Array.getElem?_eq_none_iff.mp hnone
  · cases h

/-- Ahead of a walk lie the scopes that are not behind it. -/
theorem Walk.rest_eq_drop (w : Walk) : w.rest = w.set.toList.drop w.place := by
  fun_induction Walk.rest w with
  | case1 w hend => exact (List.drop_eq_nil_of_le (length_le_of_next? hend)).symm
  | case2 w scope next hnext _ ih =>
    obtain ⟨hlt, hscope⟩ := List.getElem?_eq_some_iff.mp (getElem?_of_next? hnext)
    rw [List.drop_eq_getElem_cons hlt, hscope, ih, (lt_size_of_next? hnext).2]

@[simp] theorem rest_walk (s : ScopeSet) : s.walk.rest = s.toList := by
  rw [Walk.rest_eq_drop]
  rfl

/-- A set is told by its elements: they are scopes, each stands once and in its place, and whatever
asks for them is answered alike. -/
structure IsCanonical (s : ScopeSet) : Prop where
  /-- The order is that of the code points. -/
  increasing : s.toList.Pairwise fun a b => a.toList.map Char.toNat < b.toList.map Char.toNat
  /-- It is that of the bytes as well. -/
  increasing_bytes : s.toList.Pairwise fun a b => Utf8.encode a < Utf8.encode b
  valid : ∀ scope ∈ s.toList, scope ≠ "" ∧ ∀ c ∈ scope.toList, isBlank c = false
  contains_iff : ∀ text, s.contains text = true ↔ text ∈ s.toList
  size_eq : s.size = s.toList.length
  rest_walk : s.walk.rest = s.toList

theorem isCanonical (s : ScopeSet) : s.IsCanonical where
  increasing := s.scopes.sorted.imp Ordered.codePoints_lt
  increasing_bytes := s.scopes.sorted.imp Utf8.encode_lt
  valid := by
    intro scope hscope
    rcases s.valid scope hscope with ⟨hne, hblank⟩
    exact ⟨hne, by simpa using hblank⟩
  contains_iff := fun _ => Ordered.contains_eq_true_iff
  size_eq := rfl
  rest_walk := rest_walk s

end ScopeSet

/-- A list makes no set if one of its texts is no scope, and the first of these is the fault; else
it makes the set with its elements. Sets are equal exactly if they were made from the same elements,
and every set, however it came about, tells of its elements alike. -/
theorem scopes_of_lists :
    (∀ texts fault, ScopeSet.ofList texts = .error fault ↔
      ∃ before text after, texts = before ++ text :: after ∧
        (∀ earlier ∈ before, IsScope earlier) ∧ ScopeSet.Refuses text fault) ∧
    (∀ texts, (∃ s, ScopeSet.ofList texts = .ok s) ↔ ∀ text ∈ texts, IsScope text) ∧
    (∀ texts s, ScopeSet.ofList texts = .ok s → ∀ text, text ∈ s.toList ↔ text ∈ texts) ∧
    (∀ texts texts' s s', ScopeSet.ofList texts = .ok s → ScopeSet.ofList texts' = .ok s' →
      (s = s' ↔ ∀ text, text ∈ texts ↔ text ∈ texts')) ∧
    ∀ s : ScopeSet, s.IsCanonical := by
  refine ⟨?_, ?_, ?_, ?_, ScopeSet.isCanonical⟩
  · intro texts fault
    exact ScopeSet.ofList_eq_error_iff_exists
  · intro texts
    exact ScopeSet.exists_ofList_iff
  · intro texts s h text
    exact ScopeSet.mem_toList_of_ofList h
  · intro texts texts' s s' h h'
    exact ScopeSet.eq_iff_of_ofList h h'

/-- Three scopes, one of them twice and one beyond ASCII, make the same set as two lists of them;
and of two texts that are no scopes the first is named. -/
theorem scopes_of_sample_lists :
    (∃ s, ScopeSet.ofList ["write", "é", "read", "write"] = .ok s ∧
      ScopeSet.ofList ["é", "write", "read"] = .ok s ∧ s.toList = ["read", "write", "é"]) ∧
    ScopeSet.ofList ["read", "two words", ""] = .error (.containsBlank "two words") := by
  rcases scopes_of_lists with ⟨herror, hmade, -, heq, -⟩
  constructor
  · rcases (hmade ["write", "é", "read", "write"]).mpr (by decide) with ⟨s, hs⟩
    rcases (hmade ["é", "write", "read"]).mpr (by decide) with ⟨s', hs'⟩
    obtain rfl : s = s' := (heq _ _ s s' hs hs').mpr (by simp; tauto)
    have hlist : (ScopeSet.ofList ["write", "é", "read", "write"]).toOption.map ScopeSet.toList =
        some ["read", "write", "é"] := by
      decide +kernel
    rw [hs] at hlist
    exact ⟨s, hs, hs', Option.some.inj hlist⟩
  · have hblank : ScopeSet.Refuses "two words" (.containsBlank "two words") :=
      .blank (c := ' ') (by simp) rfl
    exact (herror _ _).mpr ⟨["read"], "two words", [""], rfl, by decide, hblank⟩

end TicketGrant
