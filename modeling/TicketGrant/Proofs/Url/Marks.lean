import Mathlib.Data.List.DropRight
import TicketGrant.Proofs.Url.Segments

/-!
# Marks in URLs

In a URL that was read, `?` and `#` stand only where query and fragment begin. What the parts before
them are made of is cut off at these marks, or is escaped, or is a host (`unmarked_of_parse`).
-/
namespace TicketGrant.Url

/-! ### Paths -/

/-- What a segment is made of has no marks. -/
theorem unmarked_pushAll {kind : SchemeKind} {pieces : List (List Char)} {segment : String}
    (h : segment ∈ (PathSoFar.pushAll {} kind pieces).segments) : Unmarked segment.toList := by
  rcases PathSoFar.madeOf_of_mem_pushAll h with hmem | ⟨piece, -, hmade⟩
  · cases hmem
  · have hescaped : Unmarked (escaped inPath (significant piece)).toList :=
      unmarked_escaped_of_refused (by decide) (by decide) _
    exact Unmarked.subset (unmarked_cons.mpr ⟨by decide, hescaped⟩) hmade

theorem unmarked_render_rooted {segments : List String}
    (h : ∀ segment ∈ segments, Unmarked segment.toList) :
    Unmarked (UrlPath.rooted segments).render.toList := by
  rw [toList_render_rooted]
  intro c hc
  obtain ⟨segment, hsegment, hc⟩ := List.mem_flatMap.mp hc
  rcases List.mem_cons.mp hc with rfl | hc
  · decide
  · exact h segment hsegment c hc

theorem unmarked_parsePath (kind : SchemeKind) (text : List Char) :
    Unmarked (UrlPath.rooted (parsePath kind text)).render.toList := by
  refine unmarked_render_rooted fun segment hsegment => ?_
  exact unmarked_pushAll (List.mem_reverse.mp hsegment)

theorem unmarked_parseFilePath (text : List Char) :
    Unmarked (parseFilePath text).1.render.toList := by
  refine unmarked_render_rooted fun segment hsegment => ?_
  split at hsegment
  · obtain rfl := List.mem_singleton.mp hsegment
    exact unmarked_nil
  · have hmem := (List.dropWhile_suffix _).subset hsegment
    exact unmarked_pushAll (List.mem_reverse.mp hmem)

/-! ### Authorities -/

theorem unmarked_renderAuthority {host : Host} (h : Unmarked host.render.toList)
    (user password : List Char) (port : Option Nat) :
    Unmarked (Authority.render ⟨escaped inCredentials user, escaped inCredentials password, host,
      port⟩).toList := by
  rw [Authority.render, Authority.credentials]
  simp only [String.toList_append, unmarked_append]
  refine ⟨⟨?credentials, h⟩, ?port⟩
  case credentials =>
    split
    · exact unmarked_nil
    simp only [String.toList_append, unmarked_append]
    refine ⟨⟨unmarked_escaped_of_refused (by decide) (by decide) user, ?_⟩, by simp⟩
    split
    · exact unmarked_nil
    · rw [String.toList_append, unmarked_append]
      exact ⟨by simp, unmarked_escaped_of_refused (by decide) (by decide) password⟩
  case port =>
    cases port with
    | none => exact unmarked_nil
    | some port =>
      simp only [String.toList_append, unmarked_append]
      exact ⟨by simp, unmarked_toString port⟩

theorem unmarked_parseAuthority {kind : SchemeKind} {text rest : List Char} {more : Bool}
    {a : Authority} (h : parseAuthority kind text more = .ok (a, rest)) :
    Unmarked a.render.toList := by
  unfold parseAuthority at h
  simp only [bind, Except.bind, pure, Except.pure, throw, throwThe, MonadExceptOf.throw] at h
  split at h
  · cases h
  split at h
  · cases h
  -- The same follows a host of the web and a host of another scheme.
  split at h
  all_goals
    split at h
    · cases h
    rename_i host hhost
    split at h
    · cases h
    split at h
    · cases h
    cases h
  · exact unmarked_renderAuthority (unmarked_parseHost hhost) _ _ _
  · exact unmarked_renderAuthority (unmarked_parseOtherHost hhost) _ _ _

/-! ### Schemes -/

/-- No letter becomes a mark in lower case. -/
theorem toLower_ne_mark {c : Char} (h : c ≠ '?' ∧ c ≠ '#') :
    c.toLower ≠ '?' ∧ c.toLower ≠ '#' := by
  unfold Char.toLower
  split
  · rename_i hupper
    have hlow : 65 ≤ c.val.toNat := UInt32.le_iff_toNat_le.mp hupper.1
    have hhigh : c.val.toNat ≤ 90 := UInt32.le_iff_toNat_le.mp hupper.2
    have hval : (c.val + ('a'.val - 'A'.val)).toNat = c.val.toNat + 32 := by
      have hshift : ('a'.val - 'A'.val).toNat = 32 := by decide
      rw [UInt32.toNat_add, hshift]
      exact Nat.mod_eq_of_lt (by omega)
    constructor
    all_goals
      intro heq
      have hnat := congrArg (fun d : Char => d.val.toNat) heq
      simp only [hval] at hnat
      have hlt : c.val.toNat + 32 < 64 := hnat ▸ by decide
      omega
  · exact h

theorem unmarked_of_splitScheme {text rest : List Char} {scheme : String}
    (h : splitScheme text = some (scheme, rest)) : Unmarked scheme.toList := by
  unfold splitScheme at h
  extract_lets name at h
  split at h
  · rename_i c chars _ after hname _
    split at h
    · rename_i hchars
      cases h
      rw [hname, String.toList_ofList]
      simp only [Unmarked, List.forall_mem_map]
      intro d hd
      refine toLower_ne_mark ?_
      rcases List.mem_cons.mp hd with rfl | hd
      · exact ne_mark_of_isAlphanum (by simp [Char.isAlphanum, hchars.1])
      · have hsign : Unmarked "+-.".toList := by simp
        rcases Bool.or_eq_true_iff.mp (List.all_eq_true.mp hchars.2 d hd) with halnum | hmem
        · exact ne_mark_of_isAlphanum halnum
        · exact hsign d (List.contains_iff_mem.mp hmem)
    · cases h
  · cases h

/-! ### URLs -/

/-- The parts of a URL between its scheme and its query have no marks. -/
def IsUnmarkedFront (authority : Option Authority) (path : UrlPath) : Prop :=
  (∀ a, authority = some a → Unmarked a.render.toList) ∧ Unmarked path.render.toList

theorem unmarked_parseFile {text : List Char} {a : Authority} {path : UrlPath}
    (h : parseFile text = .ok (a, path)) : IsUnmarkedFront (some a) path := by
  have hfront {host : Host} (hhost : Unmarked host.render.toList) (text : List Char) :
      IsUnmarkedFront (some ⟨"", "", host, none⟩) (parseFilePath text).1 := by
    refine ⟨fun a ha => ?_, unmarked_parseFilePath text⟩
    cases ha
    exact unmarked_renderAuthority hhost [] [] none
  have hnoHost : Unmarked (Host.name "").render.toList := unmarked_nil
  unfold parseFile at h
  simp only [bind, Except.bind, pure, Except.pure] at h
  split at h
  · cases h
    exact hfront hnoHost _
  split at h
  · cases h
    exact hfront hnoHost _
  split at h
  · cases h
    exact hfront hnoHost _
  split at h
  · simp only [true_or, if_true] at h
    cases h
    exact hfront hnoHost _
  split at h
  · cases h
  rename_i host hhost
  split at h
  · cases h
    exact hfront hnoHost _
  · cases h
    split
    · exact hfront hnoHost _
    · exact hfront (unmarked_parseHost hhost) _

theorem unmarked_parseHierarchy {kind : SchemeKind} {text : List Char} {more : Bool}
    {authority : Option Authority} {path : UrlPath} (htext : Unmarked text)
    (h : parseHierarchy kind text more = .ok (authority, path)) :
    IsUnmarkedFront authority path := by
  unfold parseHierarchy at h
  simp only [bind, Except.bind, pure, Except.pure] at h
  split at h
  · split at h
    · cases h
    · rename_i hfile
      cases h
      exact unmarked_parseFile hfile
  · split at h
    · cases h
    · rename_i hauthority
      cases h
      refine ⟨fun a ha => ?_, unmarked_parsePath _ _⟩
      cases ha
      exact unmarked_parseAuthority hauthority
  · split at h
    · split at h
      · cases h
      · rename_i hauthority
        cases h
        refine ⟨fun a ha => ?_, ?_⟩
        · cases ha
          exact unmarked_parseAuthority hauthority
        · split
          · exact unmarked_nil
          · exact unmarked_parsePath _ _
    · cases h
      refine ⟨fun a ha => ?_, unmarked_parsePath _ _⟩
      cases ha
    · cases h
      refine ⟨fun a ha => ?_, ?_⟩
      · cases ha
      · refine unmarked_escaped fun c hc _ => ?_
        exact htext c (List.mem_filter.mp hc).1

/-- What is cut off before both marks has neither. -/
theorem unmarked_cutAt (text : List Char) : Unmarked (cutAt '?' (cutAt '#' text).1).1 := by
  intro c hc
  have hquery : (c != '?') = true := List.mem_takeWhile_imp (p := (· != '?')) hc
  have hrest : c ∈ (cutAt '#' text).1 := List.takeWhile_subset _ hc
  have hfragment : (c != '#') = true := List.mem_takeWhile_imp (p := (· != '#')) hrest
  exact ⟨by simpa using hquery, by simpa using hfragment⟩

/-- What a URL that was read is written as has marks only from its query on. -/
theorem unmarked_of_parse {text : String} {u : Url} (h : parse text = .ok u) :
    Unmarked (u.renderOrigin ++ u.path.render).toList := by
  unfold parse at h
  simp only [bind, Except.bind, pure, Except.pure] at h
  split at h
  · cases h
  rename_i scheme rest hscheme
  split at h
  · cases h
  rename_i front hfront
  cases h
  obtain ⟨hauthority, hpath⟩ := unmarked_parseHierarchy (unmarked_cutAt rest) hfront
  simp only [renderOrigin, String.toList_append, unmarked_append]
  refine ⟨⟨⟨⟨unmarked_of_splitScheme hscheme, by simp⟩, ?authority⟩, ?guard⟩, hpath⟩
  case authority =>
    cases ha : front.1 with
    | none => exact unmarked_nil
    | some a =>
      simp only [String.toList_append, unmarked_append]
      exact ⟨by simp, hauthority a ha⟩
  case guard =>
    split
    · simp
    · exact unmarked_nil

/-! ### What stands before the query -/

/-- A text is what a URL is written as up to its query and fragment. Spaces at the end of a bare
path, which can only stand there before a query or a fragment, are left out with these. -/
def Starts (u : Url) (text : String) : Prop :=
  ∃ path spaces : String, text = u.renderOrigin ++ path ∧
    u.render = text ++ spaces ++ u.query.elim "" ("?" ++ ·) ++ u.fragment.elim "" ("#" ++ ·) ∧
    (u.isBase = true → spaces = "") ∧
    (u.isBase = false → path.toList.getLast? ≠ some ' ' ∧ ∀ c ∈ spaces.toList, c = ' ')

theorem render_eq (u : Url) :
    u.render = u.renderOrigin ++ u.path.render ++ u.query.elim "" ("?" ++ ·) ++
      u.fragment.elim "" ("#" ++ ·) := by
  rw [render]
  cases u.query <;> cases u.fragment <;> rfl

theorem render_withoutQuery (u : Url) :
    u.withoutQuery.render = u.renderOrigin ++ u.path.trimmed.render := by
  have horigin : u.withoutQuery.renderOrigin = u.renderOrigin := rfl
  rw [render_eq, horigin]
  simp [withoutQuery]

theorem starts_withoutQuery (u : Url) : u.Starts u.withoutQuery.render := by
  rw [render_withoutQuery]
  cases hpath : u.path with
  | rooted segments =>
    refine ⟨(UrlPath.rooted segments).render, "", rfl, ?_, fun _ => rfl, ?_⟩
    · rw [render_eq, hpath, String.append_empty]
      rfl
    · intro hbase
      simp [isBase, hpath] at hbase
  | bare text =>
    let isSpace : Char → Bool := (· == ' ')
    have hwhole : String.ofList (text.toList.rdropWhile isSpace) ++
        String.ofList (text.toList.rtakeWhile isSpace) = text := by
      rw [← String.ofList_append, List.rdropWhile_append_rtakeWhile, String.ofList_toList]
    refine ⟨String.ofList (text.toList.rdropWhile isSpace),
      String.ofList (text.toList.rtakeWhile isSpace), rfl, ?_, ?_, fun _ => ⟨?_, ?_⟩⟩
    · have hpieces : u.renderOrigin ++ (UrlPath.bare text).trimmed.render ++
          String.ofList (text.toList.rtakeWhile isSpace) = u.renderOrigin ++ text := by
        rw [String.append_assoc]
        exact congrArg _ hwhole
      rw [render_eq, hpath, hpieces]
      rfl
    · intro hbase
      simp [isBase, hpath] at hbase
    · rw [String.toList_ofList]
      intro hlast
      obtain ⟨hne, hspace⟩ := List.mem_getLast?_eq_getLast hlast
      refine List.rdropWhile_last_not isSpace _ hne ?_
      rw [← hspace]
      rfl
    · intro c hc
      rw [String.toList_ofList] at hc
      simpa [isSpace] using List.mem_rtakeWhile_imp hc

/-- Spaces within a bare path stay. -/
example : (parse? "x:a b  ?q#f").map (·.withoutQuery.render) = some "x:a b" := by decide +kernel

theorem subset_render_trimmed (path : UrlPath) :
    path.trimmed.render.toList ⊆ path.render.toList := by
  cases path with
  | rooted segments => exact List.Subset.refl _
  | bare text =>
    have htrimmed : (UrlPath.bare text).trimmed.render.toList = text.toList.rdropWhile (· == ' ') :=
      String.toList_ofList
    rw [htrimmed]
    have hfront := List.rdropWhile_prefix (· == ' ') text.toList
    exact hfront.subset

/-- Without query and fragment a URL that was read has no marks. -/
theorem unmarked_withoutQuery {text : String} {u : Url} (h : parse text = .ok u) :
    Unmarked u.withoutQuery.render.toList := by
  have hfront := unmarked_of_parse h
  rw [String.toList_append, unmarked_append] at hfront
  rw [render_withoutQuery, String.toList_append, unmarked_append]
  exact ⟨hfront.1, hfront.2.subset (subset_render_trimmed u.path)⟩

end TicketGrant.Url
