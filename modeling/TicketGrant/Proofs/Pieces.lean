import TicketGrant.Text.Blank

/-!
# Cuts undone

A text that is cut at separators falls into the pieces between them, and words are the pieces that
are not empty. No piece holds a separator; and texts without one, written with one between them, are
found again (`pieces_intercalate`, `words_intercalate`).
-/
namespace TicketGrant.Text

variable {separates : Char → Bool}

theorem pieces_cons (c : Char) (text : List Char) :
    pieces separates (c :: text) =
      if separates c then [] :: pieces separates text
      else (pieces separates text).modifyHead (c :: ·) := by
  simp only [pieces, List.foldr_cons]
  split <;> rfl

theorem pieces_ne_nil (text : List Char) : pieces separates text ≠ [] := List.cons_ne_nil _ _

theorem pieces_eq_splitOnP (text : List Char) :
    pieces separates text = text.splitOnP separates := by
  induction text with
  | nil => rfl
  | cons c text ih => rw [pieces_cons, List.splitOnP_cons_eq_if_modifyHead, ih]

/-- The pieces hold what is in the text and no separator. -/
theorem of_mem_pieces {text word : List Char} (h : word ∈ pieces separates text) :
    ∀ c ∈ word, c ∈ text ∧ separates c = false := by
  induction text generalizing word with
  | nil =>
    obtain rfl : word = [] := List.mem_singleton.mp h
    simp
  | cons c text ih =>
    have hlater {word : List Char} (hword : ∀ d ∈ word, d ∈ text ∧ separates d = false) :
        ∀ d ∈ word, d ∈ c :: text ∧ separates d = false := fun d hd =>
      ⟨List.mem_cons_of_mem _ (hword d hd).1, (hword d hd).2⟩
    rw [pieces_cons] at h
    split at h
    · rcases List.mem_cons.mp h with rfl | hmem
      · simp
      · exact hlater (ih hmem)
    · rename_i hc
      cases hpieces : pieces separates text with
      | nil => simp [hpieces] at h
      | cons first rest =>
        rw [hpieces] at h ih
        rcases List.mem_cons.mp h with rfl | hmem
        · exact List.forall_mem_cons.mpr
            ⟨⟨List.mem_cons_self, by simpa using hc⟩, hlater (ih List.mem_cons_self)⟩
        · exact hlater (ih (List.mem_cons_of_mem _ hmem))

/-- Texts without separators, with one between them, are found again as the pieces. -/
theorem pieces_intercalate {separator : Char} (hseparator : separates separator = true)
    {list : List (List Char)} (hlist : ∀ word ∈ list, ∀ c ∈ word, separates c = false)
    (hne : list ≠ []) : pieces separates ([separator].intercalate list) = list := by
  rw [pieces_eq_splitOnP]
  induction list with
  | nil => exact absurd rfl hne
  | cons word list ih =>
    rcases List.forall_mem_cons.mp hlist with ⟨hword, hrest⟩
    cases list with
    | nil =>
      rw [List.intercalate_singleton]
      exact List.splitOnP_eq_singleton hword
    | cons next list =>
      rw [List.intercalate_cons_cons, List.append_assoc, List.singleton_append,
        List.splitOnP_append_cons_of_forall_mem hword _ hseparator, ih hrest (List.cons_ne_nil _ _)]

/-- Words are the pieces that are not empty. What was read of a word belongs to the first piece. -/
theorem wordsFrom_eq (run text : List Char) :
    wordsFrom separates run text =
      ((pieces separates text).modifyHead (run.reverse ++ ·)).filter (!·.isEmpty) := by
  induction text generalizing run with
  | nil => cases run <;> simp [wordsFrom, pieces]
  | cons c text ih =>
    rw [wordsFrom, pieces_cons]
    split
    · have hnil : wordsFrom separates [] text = (pieces separates text).filter (!·.isEmpty) := by
        rw [ih]
        cases pieces separates text <;> simp
      cases run <;> simp [hnil]
    · rw [ih]
      cases pieces separates text <;> simp

theorem words_eq_filter_pieces (text : List Char) :
    words separates text = (pieces separates text).filter (!·.isEmpty) := by
  rw [words, wordsFrom_eq]
  cases pieces separates text <;> simp

/-- A text has no words exactly if it holds nothing but separators. -/
theorem words_eq_nil_iff {text : List Char} :
    words separates text = [] ↔ ∀ c ∈ text, separates c = true := by
  rw [words_eq_filter_pieces]
  induction text with
  | nil => simp [pieces]
  | cons c text ih =>
    rw [pieces_cons, List.forall_mem_cons]
    by_cases hc : separates c = true
    · simp [hc, ih]
    · have hne : pieces separates text ≠ [] := pieces_ne_nil text
      rcases List.exists_cons_of_ne_nil hne with ⟨first, rest, hpieces⟩
      simp [hc, hpieces]

/-- A text may be changed before it is cut, character by character. -/
theorem pieces_map (f : Char → Char) (text : List Char) :
    pieces separates (text.map f) = (pieces (separates ∘ f) text).map (List.map f) := by
  induction text with
  | nil => rfl
  | cons c text ih =>
    rw [List.map_cons, pieces_cons, pieces_cons, ih, Function.comp_apply]
    by_cases hc : separates (f c) = true
    · simp [hc]
    · cases pieces (separates ∘ f) text <;> simp [hc]

/-- Words stay as they are when nothing but separators is changed, and into separators. -/
theorem words_map {f : Char → Char} (hf : ∀ c, separates (f c) = false → f c = c)
    (text : List Char) : words separates (text.map f) = words (separates ∘ f) text := by
  have hsame : ∀ word ∈ pieces (separates ∘ f) text, word.map f = word := by
    intro word hword
    have hchars : word.map f = word.map id :=
      List.map_congr_left fun c hc => hf c (of_mem_pieces hword c hc).2
    rw [hchars, List.map_id]
  rw [words_eq_filter_pieces, words_eq_filter_pieces, pieces_map, List.map_congr_left hsame]
  simp

/-- Words with a separator between them are found again. -/
theorem words_intercalate {separator : Char} (hseparator : separates separator = true)
    {list : List (List Char)}
    (hlist : ∀ word ∈ list, word ≠ [] ∧ ∀ c ∈ word, separates c = false) :
    words separates ([separator].intercalate list) = list := by
  rw [words_eq_filter_pieces]
  by_cases hne : list = []
  · subst hne
    rfl
  · rw [pieces_intercalate hseparator (fun word hword => (hlist word hword).2) hne]
    exact List.filter_eq_self.mpr fun word hword => by simpa using (hlist word hword).1

end TicketGrant.Text
