import TicketGrant.Proofs.ScopeSets

/-!
# The two readers of scope lists

Scope lists are read in two ways: cut at white space, or at a delimiter as well, as servers send
them back. Both are one reader that is told what separates (`readList`). It refuses what holds
nothing but separators, and nothing else: words have characters, and none of them is white space. A
delimiter that is written as a space separates as before, so the readers agree
(`scope_readers_agree`).
-/
namespace TicketGrant

open Text

namespace ScopeSet

variable {separates : Char → Bool} {raw : String} {delimiter : Char} {fault : ScopeError}

/-- Reads a scope list: the scopes are the words between what separates. -/
def readList (separates : Char → Bool) (raw : String) : Except ScopeError ScopeSet :=
  if raw = "" then .ok empty
  else if raw.toList.all separates then .error .empty
  else ofList ((words separates raw.toList).map String.ofList)

/-- What separates granted scopes. -/
def separatesGranted (delimiter c : Char) : Bool := c == delimiter || isBlank c

theorem ofString_eq_readList (raw : String) : ofString raw = readList isBlank raw := rfl

theorem ofDelimited_eq_readList (raw : String) (delimiter : Char) :
    ofDelimited raw delimiter = readList (separatesGranted delimiter) raw := by
  have hwords : (pieces (fun c => c == delimiter || isBlank c) raw.toList).filter (!·.isEmpty) =
      words (separatesGranted delimiter) raw.toList := (words_eq_filter_pieces _).symm
  have hempty : (words (separatesGranted delimiter) raw.toList).isEmpty =
      raw.toList.all (separatesGranted delimiter) := by
    rw [Bool.eq_iff_iff, List.isEmpty_iff, words_eq_nil_iff, List.all_eq_true]
  simp only [ofDelimited, readList, hwords, hempty]

/-! ### What is refused -/

/-- Words are scopes, if white space separates them. -/
theorem isScope_of_mem_words (hblank : ∀ c, isBlank c = true → separates c = true)
    {text word : List Char} (h : word ∈ words separates text) : IsScope (String.ofList word) := by
  rw [words_eq_filter_pieces] at h
  rcases List.mem_filter.mp h with ⟨hpiece, hne⟩
  refine ⟨fun heq => ?_, ?_⟩
  · have hnil : word = [] := by simpa using congrArg String.toList heq
    simp [hnil] at hne
  · rw [String.toList_ofList, List.all_eq_true]
    intro c hc
    have hnot := (of_mem_pieces hpiece c hc).2
    by_contra hisBlank
    simp [hblank c (by simpa using hisBlank)] at hnot

theorem readList_eq_error_iff (hblank : ∀ c, isBlank c = true → separates c = true) :
    readList separates raw = .error fault ↔
      fault = .empty ∧ raw ≠ "" ∧ ∀ c ∈ raw.toList, separates c = true := by
  have hscopes : ∃ s, ofList ((words separates raw.toList).map String.ofList) = .ok s := by
    refine exists_ofList_iff.mpr fun scope hscope => ?_
    rcases List.mem_map.mp hscope with ⟨word, hword, rfl⟩
    exact isScope_of_mem_words hblank hword
  rcases hscopes with ⟨s, hs⟩
  rw [readList, hs]
  by_cases hraw : raw = ""
  · simp [hraw]
  · by_cases hall : raw.toList.all separates = true
    · have hchars : ∀ c ∈ raw.toList, separates c = true := List.all_eq_true.mp hall
      rw [if_neg hraw, if_pos hall, Except.error.injEq]
      exact ⟨fun heq => ⟨heq.symm, hraw, hchars⟩, fun h => h.1.symm⟩
    · have hchars : ¬ ∀ c ∈ raw.toList, separates c = true := fun h => hall (List.all_eq_true.mpr h)
      simp [hraw, hall, hchars]

theorem ofString_eq_error_iff :
    ofString raw = .error fault ↔
      fault = .empty ∧ raw ≠ "" ∧ ∀ c ∈ raw.toList, isBlank c = true := by
  rw [ofString_eq_readList]
  exact readList_eq_error_iff fun c hc => hc

theorem ofDelimited_eq_error_iff :
    ofDelimited raw delimiter = .error fault ↔
      fault = .empty ∧ raw ≠ "" ∧ ∀ c ∈ raw.toList, c = delimiter ∨ isBlank c = true := by
  rw [ofDelimited_eq_readList, readList_eq_error_iff fun c hc => by simp [separatesGranted, hc]]
  simp [separatesGranted]

theorem exists_ofDelimited_iff :
    (∃ s, ofDelimited raw delimiter = .ok s) ↔
      raw = "" ∨ ∃ c ∈ raw.toList, c ≠ delimiter ∧ isBlank c = false := by
  have hrefused : (∃ fault, ofDelimited raw delimiter = .error fault) ↔
      ¬ (raw = "" ∨ ∃ c ∈ raw.toList, c ≠ delimiter ∧ isBlank c = false) := by
    simp only [ofDelimited_eq_error_iff, exists_and_right, exists_eq, true_and, not_or, not_exists,
      not_and, Bool.not_eq_false, ne_eq, ← or_iff_not_imp_left]
  cases hread : ofDelimited raw delimiter with
  | ok s =>
    have hread' : ¬ ∃ fault, ofDelimited raw delimiter = .error fault := by simp [hread]
    exact iff_of_true ⟨s, rfl⟩ (not_not.mp (mt hrefused.mpr hread'))
  | error fault => exact iff_of_false (by simp) (hrefused.mp ⟨fault, hread⟩)

/-! ### One separator for another -/

/-- What is no separator may not be changed, and separators only into each other. -/
theorem readList_map {f : Char → Char} (hf : ∀ c, separates (f c) = false → f c = c) :
    readList separates (raw.map f) = readList (separates ∘ f) raw := by
  have hraw : raw.map f = "" ↔ raw = "" := by
    rw [← String.toList_eq_nil_iff, String.toList_map, List.map_eq_nil_iff,
      String.toList_eq_nil_iff]
  rw [readList, readList, String.toList_map, words_map hf, List.all_map]
  simp only [hraw]

/-- The delimiter written as a space. -/
def spaced (delimiter c : Char) : Char := if c = delimiter then ' ' else c

theorem isBlank_spaced (delimiter : Char) :
    isBlank ∘ spaced delimiter = separatesGranted delimiter := by
  funext c
  by_cases hc : c = delimiter
  · simp [spaced, separatesGranted, hc, show isBlank ' ' = true from rfl]
  · simp [spaced, separatesGranted, hc]

theorem ofDelimited_eq_ofString_map (raw : String) (delimiter : Char) :
    ofDelimited raw delimiter = ofString (raw.map (spaced delimiter)) := by
  have hf : ∀ c, isBlank (spaced delimiter c) = false → spaced delimiter c = c := by
    intro c hc
    by_cases heq : c = delimiter
    · simp [spaced, heq, show isBlank ' ' = true from rfl] at hc
    · simp [spaced, heq]
  rw [ofString_eq_readList, readList_map hf, isBlank_spaced, ofDelimited_eq_readList]

/-- White space separates anyway. -/
theorem ofDelimited_eq_ofString (h : isBlank delimiter = true) (raw : String) :
    ofDelimited raw delimiter = ofString raw := by
  have hsame : separatesGranted delimiter = isBlank := by
    funext c
    by_cases hc : c = delimiter
    · simp [separatesGranted, hc, h]
    · simp [separatesGranted, hc]
  rw [ofDelimited_eq_readList, ofString_eq_readList, hsame]

end ScopeSet

/-- The readers agree on every text in which the delimiters are written as spaces, and on every text
if the delimiter is white space. Each refuses, as empty, what holds separators and nothing else, and
has no other fault; and a set is read back from its scopes with a space between them. -/
theorem scope_readers_agree (raw : String) (delimiter : Char) :
    ScopeSet.ofDelimited raw delimiter =
      ScopeSet.ofString (raw.map fun c => if c = delimiter then ' ' else c) ∧
    (isBlank delimiter = true → ScopeSet.ofDelimited raw delimiter = ScopeSet.ofString raw) ∧
    (∀ fault, ScopeSet.ofDelimited raw delimiter = .error fault ↔
      fault = .empty ∧ raw ≠ "" ∧ ∀ c ∈ raw.toList, c = delimiter ∨ isBlank c = true) ∧
    (∀ fault, ScopeSet.ofString raw = .error fault ↔
      fault = .empty ∧ raw ≠ "" ∧ ∀ c ∈ raw.toList, isBlank c = true) ∧
    ∀ s : ScopeSet, ScopeSet.ofString s.normalized = .ok s := by
  refine ⟨ScopeSet.ofDelimited_eq_ofString_map raw delimiter, ?_, ?_, ?_,
    ScopeSet.ofString_normalized⟩
  · intro hblank
    exact ScopeSet.ofDelimited_eq_ofString hblank raw
  · intro fault
    exact ScopeSet.ofDelimited_eq_error_iff
  · intro fault
    exact ScopeSet.ofString_eq_error_iff

/-- A tab is white space. A comma is not: with it at both ends, doubled and among spaces, the scopes
are those of the same text with spaces, and alone it is refused. -/
theorem scope_readers_agree_samples :
    ScopeSet.ofDelimited "b\ta" '\t' = ScopeSet.ofString "b\ta" ∧
    ScopeSet.ofDelimited ",b,, a," ',' = ScopeSet.ofString " b   a " ∧
    ScopeSet.ofDelimited ", ," ',' = .error .empty ∧
    ScopeSet.ofString ", ," ≠ .error .empty := by
  have hcomma := scope_readers_agree ",b,, a," ','
  have halone := scope_readers_agree ", ," ','
  have hspaced : ",b,, a,".map (fun c => if c = ',' then ' ' else c) = " b   a " := by
    decide +kernel
  refine ⟨(scope_readers_agree "b\ta" '\t').2.1 (by decide), hspaced ▸ hcomma.1, ?_, ?_⟩
  · exact (halone.2.2.1 .empty).mpr ⟨rfl, by decide, by simp [isBlank]⟩
  · intro h
    have hblank := ((halone.2.2.2.1 .empty).mp h).2.2 ',' (by simp)
    exact absurd hblank (by decide)

end TicketGrant
