import TicketGrant.Proofs.Url.HostNames

/-!
# Segments of paths

A path that is read is cut at its slashes, and each segment is made of one of the pieces: of its
characters, escaped, and perhaps the colon of a drive. So no segment has a slash, and a path is written
in one way only (`eq_of_render_rooted`). `Parted` says how the path of a URL goes with its authority.
-/
namespace TicketGrant.Url

open Text

/-! ### What a segment is made of -/

theorem inPath_of_isAlpha {c : Char} (h : c.isAlpha = true) : inPath c = true := by
  have hletters : ∀ n < 123, (Char.ofNat n).isAlpha = true → inPath (Char.ofNat n) = true := by
    decide
  have hlt : c.toNat < 123 := by
    have htoNat : c.toNat = c.val.toNat := rfl
    have hZ : 'Z'.val.toNat = 90 := rfl
    have hz : 'z'.val.toNat = 122 := rfl
    rcases Bool.or_eq_true_iff.mp h with hupper | hlower
    · have hle := UInt32.le_iff_toNat_le.mp (of_decide_eq_true hupper).2
      omega
    · have hle := UInt32.le_iff_toNat_le.mp (of_decide_eq_true (Bool.and_eq_true_iff.mp hlower).2)
      omega
  rw [← Char.ofNat_toNat c] at h ⊢
  exact hletters _ hlt h

theorem exists_of_isDrive {text : List Char} (h : isDrive text = true) :
    ∃ letter mark, text = [letter, mark] ∧ letter.isAlpha = true := by
  unfold isDrive at h
  split at h
  · rename_i letter mark
    rw [Bool.and_eq_true] at h
    exact ⟨letter, mark, rfl, h.1⟩
  · cases h

theorem exists_of_breaksAfterDrive {piece : List Char} (h : breaksAfterDrive piece = true) :
    ∃ letter rest, significant piece = letter :: ':' :: rest ∧ letter.isAlpha = true := by
  unfold breaksAfterDrive at h
  split at h
  · rename_i letter next rest hinner
    rw [Bool.and_eq_true] at h
    exact ⟨letter, next :: rest, hinner, h.1⟩
  · cases h

/-- The characters of a segment are those of a piece, escaped, but for the colon of a drive. -/
def MadeOf (segment : String) (piece : List Char) : Prop :=
  segment.toList ⊆ ':' :: (escaped inPath (significant piece)).toList

theorem madeOf_escaped {inner piece : List Char} (h : inner ⊆ significant piece) :
    MadeOf (escaped inPath inner) piece := by
  intro c hc
  rw [escaped, String.toList_ofList] at hc ⊢
  obtain ⟨d, hd, hc⟩ := List.mem_flatMap.mp hc
  exact List.mem_cons_of_mem _ (List.mem_flatMap.mpr ⟨d, h hd, hc⟩)

/-- A letter is not escaped. -/
theorem madeOf_drive {letter : Char} {piece : List Char} (hmem : letter ∈ significant piece)
    (hletter : letter.isAlpha = true) : MadeOf (String.ofList [letter, ':']) piece := by
  have hwritten : letter ∈ (escaped inPath (significant piece)).toList := by
    rw [escaped, String.toList_ofList]
    refine List.mem_flatMap.mpr ⟨letter, hmem, ?_⟩
    rw [Percent.encodeChar, if_pos (inPath_of_isAlpha hletter)]
    exact List.mem_singleton_self letter
  rw [MadeOf, String.toList_ofList]
  exact List.cons_subset.mpr ⟨List.mem_cons_of_mem _ hwritten,
    List.cons_subset.mpr ⟨List.mem_cons_self, List.nil_subset _⟩⟩

namespace PathSoFar

variable {path : PathSoFar} {kind : SchemeKind} {segment : String}

theorem madeOf_of_mem_push {piece : List Char} {isLast : Bool}
    (h : segment ∈ (path.push kind piece isLast).segments) :
    segment ∈ path.segments ∨ MadeOf segment piece := by
  have hclose {kept : List String} (hkept : kept ⊆ path.segments)
      (hmem : segment ∈ if isLast then "" :: kept else kept) :
      segment ∈ path.segments ∨ MadeOf segment piece := by
    cases isLast with
    | false => exact .inl (hkept hmem)
    | true =>
      rcases List.mem_cons.mp hmem with rfl | hmem
      · exact .inr (List.nil_subset _)
      · exact .inl (hkept hmem)
  unfold PathSoFar.push at h
  extract_lets inner text close at h
  split at h
  · split at h
    · exact hclose (List.nil_subset _) h
    · rename_i previous rest hsegments
      refine hclose ?_ h
      split
      · exact List.Subset.refl _
      · rw [hsegments]
        exact List.subset_cons_self _ _
  split at h
  · exact hclose (List.Subset.refl _) h
  split at h
  · rename_i hdrive
    have hname : isDrive (significant piece) = true := hdrive.2.2
    obtain ⟨letter, mark, hinner, hletter⟩ := exists_of_isDrive hname
    have htake : inner.take 1 = [letter] := congrArg (List.take 1) hinner
    rw [List.mem_singleton.mp h, htake]
    exact .inr (madeOf_drive (hinner ▸ List.mem_cons_self) hletter)
  split at h
  · rename_i hbreaks
    rcases List.mem_cons.mp h with rfl | hmem
    · exact .inr (madeOf_escaped (List.drop_subset 2 inner))
    obtain ⟨letter, rest, hinner, hletter⟩ := exists_of_breaksAfterDrive hbreaks.2.2
    have htake : inner.take 2 = [letter, ':'] := congrArg (List.take 2) hinner
    rw [List.mem_singleton.mp hmem, htake]
    exact .inr (madeOf_drive (hinner ▸ List.mem_cons_self) hletter)
  · rcases List.mem_cons.mp h with rfl | hmem
    · exact .inr (madeOf_escaped (List.Subset.refl _))
    · exact .inl hmem

theorem madeOf_of_mem_pushAll {pieces : List (List Char)}
    (h : segment ∈ (path.pushAll kind pieces).segments) :
    segment ∈ path.segments ∨ ∃ piece ∈ pieces, MadeOf segment piece := by
  fun_induction PathSoFar.pushAll path kind pieces with
  | case1 => exact .inl h
  | case2 path last =>
    exact (madeOf_of_mem_push h).imp_right fun hmade => ⟨last, List.mem_cons_self, hmade⟩
  | case3 path piece rest hne ih =>
    rcases ih h with hmem | ⟨later, hlater, hmade⟩
    · exact (madeOf_of_mem_push hmem).imp_right fun hmade => ⟨piece, List.mem_cons_self, hmade⟩
    · exact .inr ⟨later, List.mem_cons_of_mem _ hlater, hmade⟩

/-- The last piece leaves a segment. -/
theorem segments_pushAll_ne_nil {pieces : List (List Char)} (h : pieces ≠ []) :
    (path.pushAll kind pieces).segments ≠ [] := by
  fun_induction PathSoFar.pushAll path kind pieces with
  | case1 => exact absurd rfl h
  | case2 path last =>
    unfold PathSoFar.push
    extract_lets inner text close
    repeat' split
    all_goals exact List.cons_ne_nil _ _
  | case3 path piece rest hne ih => exact ih (by simpa using hne)

end PathSoFar

/-! ### Cut at slashes -/

theorem ne_slash_of_mem_escaped {allowed : Char → Bool} {text : List Char}
    (h : ∀ c ∈ text, c ≠ '/') : ∀ c ∈ (escaped allowed text).toList, c ≠ '/' := by
  intro c hc
  rcases of_mem_escaped hc with ⟨hmem, -⟩ | hmem
  · exact h c hmem
  · rintro rfl
    simp at hmem

/-- No segment has a slash. -/
def Slashless (segments : List String) : Prop := ∀ segment ∈ segments, '/' ∉ segment.toList

theorem slashless_pushAll (kind : SchemeKind) (text : List Char) :
    Slashless (PathSoFar.pushAll {} kind (splitSlashes kind text)).segments := by
  intro segment hsegment hslash
  rcases PathSoFar.madeOf_of_mem_pushAll hsegment with hmem | ⟨piece, hpiece, hmade⟩
  · cases hmem
  have hpieces : splitSlashes kind text = pieces kind.isSlash text := rfl
  have hfree : ∀ c ∈ significant piece, c ≠ '/' := by
    rintro c hc rfl
    have hcut := (of_mem_pieces (hpieces ▸ hpiece) '/' (List.mem_filter.mp hc).1).2
    simp [SchemeKind.isSlash] at hcut
  rcases List.mem_cons.mp (hmade hslash) with heq | hmem
  · exact absurd heq (by decide)
  · exact ne_slash_of_mem_escaped hfree '/' hmem rfl

theorem slashless_parsePath (kind : SchemeKind) (text : List Char) :
    Slashless (parsePath kind text) := fun segment hsegment =>
  slashless_pushAll kind _ segment (List.mem_reverse.mp hsegment)

theorem parsePath_ne_nil (kind : SchemeKind) (text : List Char) : parsePath kind text ≠ [] :=
  List.reverse_ne_nil_iff.mpr (PathSoFar.segments_pushAll_ne_nil (List.cons_ne_nil _ _))

/-- A path of segments as it is written. -/
theorem toList_render_rooted (segments : List String) :
    (UrlPath.rooted segments).render.toList = segments.flatMap ('/' :: ·.toList) := by
  rw [UrlPath.render, String.toList_join, List.flatMap_map]
  congr 1
  funext segment
  rw [String.toList_append]
  rfl

theorem render_rooted_append (segments more : List String) :
    (UrlPath.rooted (segments ++ more)).render =
      (UrlPath.rooted segments).render ++ (UrlPath.rooted more).render := by
  refine String.toList_inj.mp ?_
  simp only [String.toList_append, toList_render_rooted, List.flatMap_append]

/-- A slash stands before the first segment, and one between any two. -/
theorem toList_render_rooted_cons (first : String) (rest : List String) :
    (UrlPath.rooted (first :: rest)).render.toList =
      '/' :: ['/'].intercalate ((first :: rest).map String.toList) := by
  rw [toList_render_rooted]
  induction rest generalizing first with
  | nil => simp
  | cons next rest ih =>
    rw [List.flatMap_cons, ih, List.map_cons, List.map_cons, List.map_cons,
      List.intercalate_cons_cons]
    simp

/-- The segments of a written path are found again. -/
theorem pieces_render_rooted {segments : List String} (h : Slashless segments) :
    pieces (· == '/') (UrlPath.rooted segments).render.toList =
      [] :: segments.map String.toList := by
  cases segments with
  | nil => rfl
  | cons first rest =>
    have hfree : ∀ word ∈ (first :: rest).map String.toList, ∀ c ∈ word, (c == '/') = false := by
      simp only [List.forall_mem_map]
      intro segment hsegment c hc
      exact beq_false_of_ne fun heq => h segment hsegment (heq ▸ hc)
    rw [toList_render_rooted_cons, pieces_cons, pieces_intercalate rfl hfree (List.cons_ne_nil _ _)]
    rfl

theorem eq_of_render_rooted {segments others : List String} (h : Slashless segments)
    (hothers : Slashless others)
    (heq : (UrlPath.rooted segments).render = (UrlPath.rooted others).render) :
    segments = others := by
  have hpieces := pieces_render_rooted h
  rw [heq, pieces_render_rooted hothers] at hpieces
  exact (List.map_inj_right fun _ _ => String.toList_inj.mp).mp (List.cons.inj hpieces).2.symm

/-! ### URLs that were read -/

theorem slashless_parseFilePath (text : List Char) :
    ∃ segments, (parseFilePath text).1 = .rooted segments ∧ Slashless segments := by
  refine ⟨_, rfl, fun segment hsegment => ?_⟩
  split at hsegment
  · obtain rfl := List.mem_singleton.mp hsegment
    simp
  · have hmem := (List.dropWhile_suffix _).subset hsegment
    exact slashless_pushAll .file text segment (List.mem_reverse.mp hmem)

/-- The authority and the path of a URL that was read, by the kind of its scheme. -/
inductive Parted (kind : SchemeKind) : Option Authority → UrlPath → Prop
  | below {authority segments} : Slashless segments →
      Parted kind (some authority) (.rooted segments)
  /-- A path that begins with a slash. -/
  | rooted {segments} : kind = .other → Slashless segments → segments ≠ [] →
      Parted kind none (.rooted segments)
  | bare {text} : kind = .other → text.toList.head? ≠ some '/' → Parted kind none (.bare text)

theorem Parted.of_file {text : List Char} {authority : Authority} {path : UrlPath}
    (h : parseFile text = .ok (authority, path)) : Parted .file (some authority) path := by
  have hbelow (authority : Authority) (text : List Char) :
      Parted .file (some authority) (parseFilePath text).1 := by
    obtain ⟨segments, hpath, hslashless⟩ := slashless_parseFilePath text
    rw [hpath]
    exact .below hslashless
  unfold parseFile at h
  simp only [bind, Except.bind, pure, Except.pure] at h
  repeat' split at h
  all_goals cases h
  all_goals exact hbelow _ _

/-- A text that does not begin with a slash does not begin with one when it is escaped. -/
theorem head?_escaped_ne_slash {allowed : Char → Bool} {text : List Char}
    (h : text.head? ≠ some '/') : (escaped allowed text).toList.head? ≠ some '/' := by
  rw [escaped, String.toList_ofList]
  cases text with
  | nil => simp [Percent.encode]
  | cons c rest =>
    have hc : c ≠ '/' := by simpa using h
    have hbytes : String.utf8EncodeChar c ≠ [] := by
      have hlength := String.length_utf8EncodeChar c
      have hpos := c.utf8Size_pos
      intro hnil
      rw [hnil, List.length_nil] at hlength
      omega
    obtain ⟨b, bytes, hb⟩ := List.exists_cons_of_ne_nil hbytes
    rw [Percent.encode, List.flatMap_cons, Percent.encodeChar]
    split
    · simpa using hc
    · rw [hb]
      simp [Percent.escape]

theorem Parted.of_hierarchy {kind : SchemeKind} {text : List Char} {more : Bool}
    {authority : Option Authority} {path : UrlPath}
    (h : parseHierarchy kind text more = .ok (authority, path)) : Parted kind authority path := by
  unfold parseHierarchy at h
  simp only [bind, Except.bind, pure, Except.pure] at h
  split at h
  · split at h
    · cases h
    · rename_i hfile
      cases h
      exact .of_file hfile
  · split at h
    · cases h
    · cases h
      exact .below (slashless_parsePath _ _)
  · split at h
    · split at h
      · cases h
      · cases h
        refine .below ?_
        split
        · exact List.forall_mem_nil _
        · exact slashless_parsePath _ _
    · cases h
      exact .rooted rfl (slashless_parsePath _ _) (parsePath_ne_nil _ _)
    · rename_i hnone
      cases h
      refine .bare rfl (head?_escaped_ne_slash fun hhead => ?_)
      obtain ⟨rest, hrest⟩ := List.head?_eq_some_iff.mp hhead
      exact hnone _ hrest

/-- What a URL that was read is made of. -/
structure IsParted (u : Url) : Prop where
  parted : Parted (schemeKind u.scheme) u.authority u.path
  guarded_eq : u.guarded = (u.authority.isNone && u.path.isDoubled)

theorem isParted_of_parse {text : String} {u : Url} (h : parse text = .ok u) : u.IsParted := by
  unfold parse at h
  simp only [bind, Except.bind, pure, Except.pure] at h
  split at h
  · cases h
  split at h
  · cases h
  rename_i front hfront
  cases h
  exact ⟨.of_hierarchy hfront, rfl⟩

theorem isParted_of_parse? {text : String} {u : Url} (h : parse? text = some u) : u.IsParted := by
  rw [parse?] at h
  cases hparse : parse text with
  | error fault =>
    rw [hparse] at h
    cases h
  | ok found =>
    rw [hparse] at h
    cases h
    exact isParted_of_parse hparse

end TicketGrant.Url
