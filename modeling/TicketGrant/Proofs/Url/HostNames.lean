import TicketGrant.Proofs.Pieces
import TicketGrant.Url.Parser

/-!
# Hosts without marks

No host that is read has a `?` or a `#`. An address has none, a name of another scheme is refused
with them, and so is one of the web before it is brought into ASCII form, which makes none: Punycode
keeps the ASCII characters and adds letters, digits and hyphens, and reading it adds no ASCII
characters.
-/
namespace TicketGrant.Url

open Text

/-- A text without the marks that begin query and fragment. -/
def Unmarked (text : List Char) : Prop := ∀ c ∈ text, c ≠ '?' ∧ c ≠ '#'

instance (text : List Char) : Decidable (Unmarked text) :=
  inferInstanceAs (Decidable (∀ c ∈ text, _))

@[simp] theorem unmarked_nil : Unmarked [] := List.forall_mem_nil _

@[simp] theorem unmarked_cons {c : Char} {text : List Char} :
    Unmarked (c :: text) ↔ (c ≠ '?' ∧ c ≠ '#') ∧ Unmarked text := List.forall_mem_cons

@[simp] theorem unmarked_append {a b : List Char} :
    Unmarked (a ++ b) ↔ Unmarked a ∧ Unmarked b := List.forall_mem_append

theorem Unmarked.subset {a b : List Char} (h : Unmarked b) (hsubset : a ⊆ b) : Unmarked a :=
  fun c hc => h c (hsubset hc)

theorem unmarked_intercalate {separator : List Char} {texts : List (List Char)}
    (hseparator : Unmarked separator) (h : ∀ text ∈ texts, Unmarked text) :
    Unmarked (separator.intercalate texts) := by
  induction texts with
  | nil => exact unmarked_nil
  | cons text texts ih =>
    obtain ⟨htext, htexts⟩ := List.forall_mem_cons.mp h
    cases texts with
    | nil => simpa using htext
    | cons next texts =>
      rw [List.intercalate_cons_cons, unmarked_append, unmarked_append]
      exact ⟨⟨htext, hseparator⟩, ih htexts⟩

/-- What holds of neither mark holds of other characters only. -/
theorem ne_mark_of {p : Char → Bool} (hquery : p '?' = false) (hfragment : p '#' = false) {c : Char}
    (h : p c = true) : c ≠ '?' ∧ c ≠ '#' := by
  constructor
  · rintro rfl
    simp [hquery] at h
  · rintro rfl
    simp [hfragment] at h

theorem ne_mark_of_isAlphanum {c : Char} (h : c.isAlphanum = true) : c ≠ '?' ∧ c ≠ '#' :=
  ne_mark_of (by decide) (by decide) h

theorem ofNat_ne_mark {n : Nat} (hquery : n ≠ '?'.toNat) (hfragment : n ≠ '#'.toNat) :
    Char.ofNat n ≠ '?' ∧ Char.ofNat n ≠ '#' := by
  have hcode {d : Char} (hd : 0 < d.toNat) (heq : Char.ofNat n = d) : n = d.toNat := by
    subst heq
    by_cases hvalid : n.isValidChar
    · have hchar : Char.ofNat n = Char.ofNatAux n hvalid := dif_pos hvalid
      exact (congrArg Char.toNat hchar).symm
    · have hchar : Char.ofNat n = Char.ofNat 0 := dif_neg hvalid
      rw [hchar] at hd
      cases hd
  exact ⟨fun heq => hquery (hcode (by decide) heq), fun heq => hfragment (hcode (by decide) heq)⟩

/-! ### Escaped texts -/

/-- What is escaped has characters that are kept, and otherwise those of escapes. -/
theorem of_mem_escaped {allowed : Char → Bool} {text : List Char} {c : Char}
    (hc : c ∈ (escaped allowed text).toList) :
    c ∈ text ∧ allowed c = true ∨ c ∈ "%0123456789ABCDEF".toList := by
  have hdigit : ∀ n < 16, Percent.hexDigit n ∈ "%0123456789ABCDEF".toList := by decide
  rw [escaped, String.toList_ofList] at hc
  obtain ⟨d, hd, hc⟩ := List.mem_flatMap.mp hc
  rw [Percent.encodeChar] at hc
  split at hc
  · rename_i hallowed
    obtain rfl : c = d := List.mem_singleton.mp hc
    exact .inl ⟨hd, hallowed⟩
  · obtain ⟨b, -, hc⟩ := List.mem_flatMap.mp hc
    have hb : b.toNat < 256 := b.toNat_lt
    simp only [Percent.escape, List.mem_cons, List.not_mem_nil, or_false] at hc
    rcases hc with rfl | rfl | rfl
    · exact .inr (by simp)
    · exact .inr (hdigit _ (by omega))
    · exact .inr (hdigit _ (by omega))

/-- What is escaped has no marks, unless it keeps them. -/
theorem unmarked_escaped {allowed : Char → Bool} {text : List Char}
    (h : ∀ c ∈ text, allowed c = true → c ≠ '?' ∧ c ≠ '#') :
    Unmarked (escaped allowed text).toList := by
  have hdigits : Unmarked "%0123456789ABCDEF".toList := by simp
  intro c hc
  rcases of_mem_escaped hc with ⟨hmem, hallowed⟩ | hmem
  · exact h c hmem hallowed
  · exact hdigits c hmem

theorem unmarked_escaped_of_refused {allowed : Char → Bool} (hquery : allowed '?' = false)
    (hfragment : allowed '#' = false) (text : List Char) :
    Unmarked (escaped allowed text).toList :=
  unmarked_escaped fun _ _ h => ne_mark_of hquery hfragment h

/-! ### Addresses -/

theorem unmarked_digitChar (n : Nat) : n.digitChar ≠ '?' ∧ n.digitChar ≠ '#' := by
  by_cases hn : n < 16
  · have hdigit : ∀ n < 16, Nat.digitChar n ≠ '?' ∧ Nat.digitChar n ≠ '#' := by decide
    exact hdigit n hn
  · rw [Nat.digitChar_eq_star.mpr (Nat.le_of_not_lt hn)]
    decide

theorem unmarked_toDigits {base : Nat} (hbase : 1 < base) (n : Nat) :
    Unmarked (Nat.toDigits base n) := by
  induction n using Nat.strongRecOn with
  | ind n ih =>
    rw [Nat.toDigits_eq_if hbase]
    split
    · exact List.forall_mem_singleton.mpr (unmarked_digitChar n)
    · rename_i hle
      rw [unmarked_append]
      exact ⟨ih _ (Nat.div_lt_self (by omega) hbase),
        List.forall_mem_singleton.mpr (unmarked_digitChar _)⟩

theorem unmarked_toString (n : Nat) : Unmarked (toString n).toList := by
  have htext : (toString n).toList = Nat.toDigits 10 n := Nat.toList_repr
  rw [htext]
  exact unmarked_toDigits (by decide) n

theorem Ipv4.unmarked_render (address : Nat) : Unmarked (Ipv4.render address).toList := by
  rw [render, String.toList_intercalate]
  refine unmarked_intercalate (by simp) ?_
  simp only [List.map_map, List.forall_mem_map]
  intro i _
  exact unmarked_toString _

theorem Ipv6.unmarked_renderPieces (pieces : List Nat) :
    Unmarked (renderPieces pieces).toList := by
  rw [renderPieces, String.toList_intercalate]
  refine unmarked_intercalate (by simp) ?_
  simp only [List.map_map, List.forall_mem_map, Function.comp, String.toList_ofList]
  intro piece _
  exact unmarked_toDigits (by decide) piece

theorem Ipv6.unmarked_render (pieces : List Nat) : Unmarked (Ipv6.render pieces).toList := by
  rw [render]
  split
  · exact unmarked_renderPieces pieces
  · rw [String.toList_append, String.toList_append, unmarked_append, unmarked_append]
    exact ⟨⟨unmarked_renderPieces _, by simp⟩, unmarked_renderPieces _⟩

namespace Idna

/-! ### Punycode -/

namespace Punycode

/-- The characters beyond ASCII are the only ones that are read in numbers. -/
def Reading.AddsBeyond (r : Reading) (plain : List Nat) : Prop :=
  128 ≤ r.code ∧ ∀ n ∈ r.text, 128 ≤ n ∨ n ∈ plain

theorem Reading.AddsBeyond.step {r next : Reading} {plain : List Nat} {c : Char}
    (h : r.AddsBeyond plain) (hstep : r.step c = some next) : next.AddsBeyond plain := by
  obtain ⟨hcode, htext⟩ := h
  simp only [Reading.step, Option.bind_eq_bind, Option.bind_eq_some_iff] at hstep
  obtain ⟨value, -, hstep⟩ := hstep
  split at hstep
  · cases hstep
  split at hstep
  · split at hstep
    · cases hstep
    · cases hstep
      exact ⟨hcode, htext⟩
  split at hstep
  · cases hstep
    refine ⟨Nat.le_add_right_of_le hcode, ?_⟩
    intro n hn
    rcases List.mem_append.mp hn with hn | hn
    · exact htext n (List.mem_of_mem_take hn)
    rcases List.mem_cons.mp hn with rfl | hn
    · exact .inl (Nat.le_add_right_of_le hcode)
    · exact htext n (List.mem_of_mem_drop hn)
  · cases hstep

theorem Reading.AddsBeyond.foldlM {digits : List Char} {r last : Reading} {plain : List Nat}
    (h : r.AddsBeyond plain) (hrun : digits.foldlM Reading.step r = some last) :
    last.AddsBeyond plain := by
  induction digits generalizing r with
  | nil =>
    cases hrun
    exact h
  | cons c digits ih =>
    rw [List.foldlM_cons, Option.bind_eq_bind, Option.bind_eq_some_iff] at hrun
    obtain ⟨next, hstep, hrun⟩ := hrun
    exact ih (h.step hstep) hrun

/-- The ASCII characters of a text stand in its written form. -/
theorem mem_of_decode? {written : List Char} {text : List Nat} (h : decode? written = some text) :
    ∀ n ∈ text, 128 ≤ n ∨ n ∈ written.map Char.toNat := by
  unfold decode? at h
  extract_lets digits plain digits' at h
  split at h
  · simp only [Option.bind_eq_bind, Option.bind_eq_some_iff] at h
    obtain ⟨r, hrun, h⟩ := h
    split at h
    · cases h
      have hstart : Reading.AddsBeyond { text := plain.map Char.toNat } (plain.map Char.toNat) :=
        ⟨Nat.le_refl _, fun n hn => .inr hn⟩
      have hsub : plain.map Char.toNat ⊆ written.map Char.toNat :=
        List.map_subset _ (List.take_subset _ _)
      intro n hn
      exact ((hstart.foldlM hrun).2 n hn).imp_right fun hmem => hsub hmem
    · cases h
  · cases h

theorem unmarked_writeNumber (n k bias : Nat) : Unmarked (writeNumber n k bias) := by
  have hdigit : ∀ n < 36, digit n ≠ '?' ∧ digit n ≠ '#' := by decide
  fun_induction writeNumber n k bias with
  | case1 n k t hlt =>
    have hle : t ≤ 26 := threshold_le k bias
    exact List.forall_mem_singleton.mpr (hdigit n (by omega))
  | case2 n k t hge ih =>
    have hle : t ≤ 26 := threshold_le k bias
    have hmod : (n - t) % (base - t) < base - t := Nat.mod_lt _ (by simp only [base]; omega)
    refine unmarked_cons.mpr ⟨hdigit _ ?_, ih⟩
    simp only [base] at hmod ⊢
    omega

theorem Writing.unmarked_step {w : Writing} (h : Unmarked w.out) (code n : Nat) :
    Unmarked (w.step code n).out := by
  rw [step]
  split
  · exact h
  split
  · exact unmarked_append.mpr ⟨h, unmarked_writeNumber _ _ _⟩
  · exact h

theorem Writing.unmarked_pass {w : Writing × Nat} (h : Unmarked w.1.out) (text : List Nat)
    (code : Nat) : Unmarked (pass text w code).1.out := by
  have hstart : Unmarked { w.1 with delta := w.1.delta + (code - w.2) * (w.1.count + 1) }.out := h
  exact List.foldlRecOn text (Writing.step code) (motive := fun w => Unmarked w.out) hstart
    fun w hw n _ => unmarked_step hw code n

theorem unmarked_encode {text : List Nat} (h : Unmarked (text.map Char.ofNat)) :
    Unmarked (encode text) := by
  have hout := List.foldlRecOn (((text.filter (128 ≤ ·)).mergeSort (· ≤ ·)).eraseReps)
    (Writing.pass text) (motive := fun w => Unmarked w.1.out)
    (b := ({ count := (text.filter (· < 128)).length }, 128)) unmarked_nil
    fun w hw code _ => Writing.unmarked_pass hw text code
  simp only [encode, unmarked_append]
  refine ⟨⟨h.subset (List.map_subset _ List.filter_sublist.subset), ?_⟩, hout⟩
  split
  · exact unmarked_nil
  · simp

end Punycode

/-! ### Host names -/

theorem exists_of_mem_mapM {α β : Type} {f : α → Option β} {as : List α} {bs : List β}
    (h : as.mapM f = some bs) : ∀ b ∈ bs, ∃ a ∈ as, f a = some b := by
  induction as generalizing bs with
  | nil =>
    cases h
    exact List.forall_mem_nil _
  | cons a as ih =>
    simp only [List.mapM_cons, Option.bind_eq_bind, Option.bind_eq_some_iff] at h
    obtain ⟨b, hb, rest, hrest, h⟩ := h
    cases h
    refine List.forall_mem_cons.mpr ⟨⟨a, List.mem_cons_self, hb⟩, fun c hc => ?_⟩
    obtain ⟨d, hd, hfd⟩ := ih hrest c hc
    exact ⟨d, List.mem_cons_of_mem _ hd, hfd⟩

theorem unmarked_of_isForbidden {codes : List Nat} (h : codes.any isForbidden = false) :
    Unmarked (codes.map Char.ofNat) := by
  simp only [Unmarked, List.forall_mem_map]
  intro n hn
  have hforbidden : isForbidden n = false := by
    simpa using List.any_eq_false.mp h n hn
  refine ofNat_ne_mark ?_ ?_
  all_goals
    rintro rfl
    exact absurd hforbidden (by decide)

theorem unmarked_of_mem_labels {name label : List Nat} (h : Unmarked (name.map Char.ofNat))
    (hlabel : label ∈ labels name) : Unmarked (label.map Char.ofNat) := by
  obtain ⟨piece, hpiece, rfl⟩ := List.mem_map.mp hlabel
  have hsame : (piece.map Char.toNat).map Char.ofNat = piece := by
    simp [List.map_map, Function.comp_def]
  rw [hsame]
  intro c hc
  exact h c (of_mem_pieces hpiece c hc).1

/-- A label that is read behind its mark has the ASCII characters that it is written with. -/
theorem unmarked_of_readable? {label readable : List Nat} (h : Unmarked (label.map Char.ofNat))
    (hreadable : readable? label = some readable) : Unmarked (readable.map Char.ofNat) := by
  unfold readable? at hreadable
  split at hreadable
  · extract_lets written at hreadable
    split at hreadable
    · cases hreadable
    simp only [Option.bind_eq_bind, Option.bind_eq_some_iff] at hreadable
    obtain ⟨text, hdecode, hreadable⟩ := hreadable
    split at hreadable
    · cases hreadable
      simp only [Unmarked, List.forall_mem_map]
      intro n hn
      rcases Punycode.mem_of_decode? hdecode n hn with hbeyond | hmem
      · have hlow : '?'.toNat < 128 ∧ '#'.toNat < 128 := by decide
        exact ofNat_ne_mark (by omega) (by omega)
      · simp only [List.mem_map] at hmem
        obtain ⟨_, ⟨m, hm, rfl⟩, rfl⟩ := hmem
        rw [Char.ofNat_toNat]
        exact h _ (List.mem_map_of_mem (List.mem_of_mem_drop hm))
    · cases hreadable
  · cases hreadable
    exact h

theorem unmarked_of_aceLabel? {label : List Nat} {written : List Char}
    (h : Unmarked (label.map Char.ofNat)) (hwritten : aceLabel? label = some written) :
    Unmarked written := by
  unfold aceLabel? at hwritten
  split at hwritten
  · cases hwritten
    exact h
  split at hwritten
  · cases hwritten
  · cases hwritten
    exact unmarked_append.mpr ⟨by simp [aceMark], Punycode.unmarked_encode h⟩

theorem unmarked_of_toAscii? {name written : String} (h : toAscii? name = some written) :
    Unmarked written.toList := by
  simp only [toAscii?, Option.bind_eq_bind, Option.bind_eq_some_iff] at h
  obtain ⟨mapped, -, h⟩ := h
  split at h
  · cases h
  rename_i hforbidden
  simp only [Option.bind_eq_some_iff] at h
  obtain ⟨readables, hreadables, h⟩ := h
  split at h
  · simp only [Option.bind_eq_some_iff] at h
    obtain ⟨parts, hparts, h⟩ := h
    cases h
    rw [String.toList_ofList]
    refine unmarked_intercalate (by simp) fun part hpart => ?_
    obtain ⟨readable, hmem, hpart⟩ := exists_of_mem_mapM hparts part hpart
    obtain ⟨label, hlabel, hreadable⟩ := exists_of_mem_mapM hreadables readable hmem
    have hmapped := unmarked_of_isForbidden (Bool.eq_false_iff.mpr hforbidden)
    exact unmarked_of_aceLabel?
      (unmarked_of_readable? (unmarked_of_mem_labels hmapped hlabel) hreadable) hpart
  · cases h

end Idna

/-! ### Hosts -/

theorem unmarked_bracketed {text : List Char} {host : Host} (h : bracketed text = .ok host) :
    Unmarked host.render.toList := by
  unfold bracketed at h
  split at h
  · cases h
  split at h
  · cases h
    rw [Host.render, String.toList_append, String.toList_append, unmarked_append, unmarked_append]
    exact ⟨⟨by simp, Ipv6.unmarked_render _⟩, by simp⟩
  · cases h

theorem unmarked_parseHost {text : List Char} {host : Host} (h : parseHost text = .ok host) :
    Unmarked host.render.toList := by
  unfold parseHost at h
  split at h
  · exact unmarked_bracketed h
  split at h
  · cases h
  rename_i name hname
  obtain ⟨_, -, hname⟩ := Option.bind_eq_some_iff.mp hname
  split at h
  · cases h
  split at h
  · split at h
    · cases h
      exact Ipv4.unmarked_render _
    · cases h
  · cases h
    exact Idna.unmarked_of_toAscii? hname

theorem unmarked_parseOtherHost {text : List Char} {host : Host}
    (h : parseOtherHost text = .ok host) : Unmarked host.render.toList := by
  unfold parseOtherHost at h
  split at h
  · exact unmarked_bracketed h
  split at h
  · cases h
  · rename_i hforbidden
    cases h
    have hfree : ∀ c ∈ text, (!isForbiddenInHost c) = true := by simpa using hforbidden
    exact unmarked_escaped fun c hc _ =>
      ne_mark_of (p := (!isForbiddenInHost ·)) (by decide) (by decide) (hfree c hc)

end TicketGrant.Url
