import TicketGrant.Proofs.Session
import TicketGrant.Proofs.Url.Segments

/-!
# Where metadata is

The document of a server is below the server's own URL: reached with the same scheme, credentials,
host and port, and asked for without query and fragment. A slash at the end of the server's path makes
no difference. Only URLs whose scheme is not followed by a slash have no documents below them.
-/
namespace TicketGrant

open Text Dialogue

namespace Url

/-! ### Bases -/

/-- A slash stands behind the scheme. -/
def IsHierarchical (u : Url) : Prop := ∃ rest, u.render = u.scheme ++ ":/" ++ rest

/-- All that is written behind the scheme. -/
def afterScheme (u : Url) : String :=
  (match u.authority with
    | some authority => "//" ++ authority.render
    | none => "") ++
    (if u.guarded then "/." else "") ++ u.path.render ++
    (match u.query with
      | none => ""
      | some query => "?" ++ query) ++
    match u.fragment with
    | none => ""
    | some fragment => "#" ++ fragment

theorem render_eq_afterScheme (u : Url) : u.render = u.scheme ++ ":" ++ u.afterScheme := by
  obtain ⟨scheme, authority, guarded, path, query, fragment⟩ := u
  cases authority <;> cases query <;> cases fragment <;>
    simp [render, renderOrigin, afterScheme, String.append_assoc]

theorem isHierarchical_iff {u : Url} :
    u.IsHierarchical ↔ u.afterScheme.toList.head? = some '/' := by
  have hmark : (":/" : String) = ":" ++ "/" := by decide
  rw [List.head?_eq_some_iff, IsHierarchical]
  simp only [render_eq_afterScheme, hmark, ← String.toList_inj, String.toList_append,
    List.append_assoc, List.append_cancel_left_eq]
  constructor
  · rintro ⟨rest, hrest⟩
    exact ⟨rest.toList, hrest⟩
  · rintro ⟨rest, hrest⟩
    refine ⟨String.ofList rest, ?_⟩
    rw [hrest, String.toList_ofList]
    simp

/-- The URLs with segments are those with a slash behind the scheme. -/
theorem IsParted.isBase_iff {u : Url} (h : u.IsParted) : u.isBase = true ↔ u.IsHierarchical := by
  obtain ⟨scheme, authority, guarded, path, query, fragment⟩ := u
  obtain ⟨hparted, hguarded⟩ := h
  rw [isHierarchical_iff]
  dsimp only at hparted hguarded
  cases hparted with
  | below => simp [isBase, afterScheme]
  | @rooted segments hother hslashless hne =>
    obtain ⟨first, rest, rfl⟩ := List.exists_cons_of_ne_nil hne
    cases guarded <;>
      simp [isBase, afterScheme, toList_render_rooted]
  | @bare text hother hhead =>
    -- query and fragment begin with their own marks
    cases hguarded
    cases htext : text.toList with
    | nil =>
      cases query <;> cases fragment <;> simp [isBase, afterScheme, UrlPath.render, htext,
        UrlPath.isDoubled]
    | cons c rest =>
      have hc : c ≠ '/' := by simpa [htext] using hhead
      simp [isBase, afterScheme, UrlPath.render, htext, UrlPath.isDoubled, hc]

/-- A URL for HTTP has an authority, and its path has segments. -/
theorem IsParted.exists_below {u : Url} (h : u.IsParted)
    (hscheme : u.scheme = "http" ∨ u.scheme = "https") :
    ∃ authority segments, u.authority = some authority ∧ u.path = .rooted segments ∧
      Slashless segments := by
  obtain ⟨scheme, authority, guarded, path, query, fragment⟩ := u
  have hkind : schemeKind scheme ≠ .other := by
    rcases hscheme with rfl | rfl <;> decide
  cases h.parted with
  | below hslashless => exact ⟨_, _, rfl, rfl, hslashless⟩
  | rooted hother | bare hother => exact absurd hother hkind

end Url

namespace Metadata

/-! ### Paths of documents -/

/-- A URL with another path, and with nothing behind it. -/
def documentUrl (server : Url) (segments : List String) : Url :=
  { server with path := .rooted (segments ++ [".well-known", "uma2-configuration"]), query := none,
                fragment := none }

variable {server : Url} {segments : List String}

theorem location?_of_unslashed (hpath : server.path = .rooted segments)
    (hlast : segments.getLast? ≠ some "") : location? server = some (documentUrl server segments) := by
  have hkept : segments ≠ [""] := by
    rintro rfl
    exact hlast rfl
  simp only [location?, Url.appendSegments?, hpath, if_neg hlast, if_neg hkept]
  rfl

/-- The last segment is empty behind a slash, and makes room for others. -/
theorem location?_of_slashed (hpath : server.path = .rooted (segments ++ [""]))
    (hkept : segments ≠ [""]) : location? server = some (documentUrl server segments) := by
  simp only [location?, Url.appendSegments?, hpath, List.getLast?_concat, if_true,
    List.dropLast_concat, if_neg hkept]
  rfl

theorem render_documentUrl (hpath : server.path = .rooted segments) :
    (documentUrl server segments).path.render =
      server.path.render ++ "/.well-known/uma2-configuration" := by
  rw [documentUrl, hpath]
  exact Url.render_rooted_append _ _

/-- Query and fragment of the server have no part in it. -/
theorem location?_withQuery (server : Url) (query fragment : Option String) :
    location? { server with query := query, fragment := fragment } = location? server := by
  rw [location?, location?, Url.appendSegments?, Url.appendSegments?]
  cases server.path <;> rfl

/-- A document below a server is reached as the server is, and asked for without query and
fragment. -/
structure IsReachedAs (server uri : Url) : Prop where
  scheme : uri.scheme = server.scheme
  authority : uri.authority = server.authority
  query : uri.query = none
  fragment : uri.fragment = none
  render : uri.render = server.renderOrigin ++ uri.path.render

theorem isReachedAs_of_location? {uri : Url} (h : location? server = some uri) :
    IsReachedAs server uri := by
  rw [location?, Url.appendSegments?] at h
  cases hpath : server.path with
  | bare text =>
    rw [hpath] at h
    cases h
  | rooted segments =>
    rw [hpath] at h
    cases h
    refine ⟨rfl, rfl, rfl, rfl, ?_⟩
    simp only [Url.render, Url.withoutQuery, String.append_empty]
    rfl

/-- A path that does not end in a slash has a name at its end, if it has segments. -/
theorem getLast?_ne_of_render (hlast : (UrlPath.rooted segments).render.toList.getLast? ≠ some '/') :
    segments.getLast? ≠ some "" := by
  intro hempty
  obtain ⟨front, rfl⟩ := List.getLast?_eq_some_iff.mp hempty
  refine hlast ?_
  rw [Url.toList_render_rooted, List.flatMap_append]
  simp

/-! ### Servers reached by HTTP -/

/-- How the path of a document goes on from the path of its server, by how that path ends. -/
structure IsBeneath (server uri : Url) : Prop where
  ofRoot : server.path.render = "/" → uri.path.render = "/.well-known/uma2-configuration"
  ofUnslashed : server.path.render.toList.getLast? ≠ some '/' →
    uri.path.render = server.path.render ++ "/.well-known/uma2-configuration"
  /-- The same server with a slash at the end of its path has its document in the same place. -/
  ofSlashed : server.path.render.toList.getLast? ≠ some '/' →
    ∀ text other, Url.parse? text = some other → other.scheme = server.scheme →
      other.authority = server.authority → other.path.render = server.path.render ++ "/" →
      location? other = some uri

/-- One slash more leaves one empty segment more. -/
theorem path_of_slashed {other : Url} (hother : other.IsParted)
    (hscheme : other.scheme = "http" ∨ other.scheme = "https") (h : Url.Slashless segments)
    (hrender : other.path.render = (UrlPath.rooted segments).render ++ "/") :
    other.path = .rooted (segments ++ [""]) := by
  obtain ⟨-, others, -, hothers, hslashless⟩ := hother.exists_below hscheme
  have hmore : Url.Slashless (segments ++ [""]) := by
    simpa [Url.Slashless, or_imp, forall_and] using h
  have hone : (UrlPath.rooted [""]).render = "/" := by decide
  rw [hothers] at hrender ⊢
  rw [← hone, ← Url.render_rooted_append] at hrender
  rw [Url.eq_of_render_rooted hslashless hmore hrender]

theorem isBeneath_of_location? {uri : Url} (h : server.IsParted)
    (hscheme : server.scheme = "http" ∨ server.scheme = "https")
    (hlocation : location? server = some uri) : IsBeneath server uri := by
  obtain ⟨authority, segments, hauthority, hpath, hslashless⟩ := h.exists_below hscheme
  have hguarded {u : Url} (hu : u.IsParted) (hsame : u.authority = some authority) :
      u.guarded = false := by
    rw [hu.guarded_eq, hsame]
    rfl
  have hunslashed (hrender : server.path.render.toList.getLast? ≠ some '/') :
      uri = documentUrl server segments ∧ segments ≠ [""] := by
    have hlast : segments.getLast? ≠ some "" := getLast?_ne_of_render (hpath ▸ hrender)
    rw [location?_of_unslashed hpath hlast] at hlocation
    refine ⟨(Option.some.inj hlocation).symm, ?_⟩
    rintro rfl
    exact hlast rfl
  refine ⟨fun hroot => ?_, fun hrender => ?_, ?_⟩
  · have hone : segments = [] ++ [""] := by
      rw [hpath] at hroot
      exact Url.eq_of_render_rooted hslashless (by simp [Url.Slashless]) hroot
    rw [location?_of_slashed (hone ▸ hpath) (by decide)] at hlocation
    obtain rfl := Option.some.inj hlocation
    have hwritten : (UrlPath.rooted [".well-known", "uma2-configuration"]).render =
        "/.well-known/uma2-configuration" := by decide
    exact hwritten
  · rw [(hunslashed hrender).1]
    exact render_documentUrl hpath
  · intro hrender text other hparse hscheme' hauthority' hrender'
    have hother := Url.isParted_of_parse? hparse
    obtain ⟨rfl, hkept⟩ := hunslashed hrender
    have hpath' : other.path = .rooted (segments ++ [""]) :=
      path_of_slashed hother (hscheme' ▸ hscheme) hslashless (hpath ▸ hrender')
    have hsame : other.guarded = server.guarded :=
      (hguarded hother (hauthority'.trans hauthority)).trans (hguarded h hauthority).symm
    rw [location?_of_slashed hpath' hkept, documentUrl, documentUrl, hscheme', hauthority', hsame]

/-- A discovery says that nothing is below a server just when nothing is. -/
theorem serverUri_discover_iff {σ : Type} (env : Environment σ) (c : Client) (server : Url) (s : σ)
    (uri : String) :
    (c.discover env server s).result = .error (.setup (.serverUri uri)) ↔
      location? server = none ∧ uri = server.render := by
  obtain ⟨inner, -, hdiscovers⟩ := c.discovers_discover env server s
  cases hlocation : location? server with
  | none =>
    generalize (c.discover env server s).result = result at hdiscovers
    cases hdiscovers with
    | baseless => simp [eq_comm]
    | unbuilt hsome => cases hlocation.symm.trans hsome
    | undelivered hat | refused hat | unreadable hat | insecure hat | found hat =>
      cases hlocation.symm.trans hat.location
  | some found =>
    generalize (c.discover env server s).result = result at hdiscovers
    cases hdiscovers with
    | baseless hbase => cases hlocation.symm.trans (location?_eq_none_iff.mpr hbase)
    | unbuilt | undelivered | refused | unreadable | insecure | found => simp

/-- The place of a document is missing for the URLs that cannot be a base, and only for those. For
any other it is the server's own URL with a longer path, whatever query and fragment that has. -/
theorem location_of_parse {text : String} {server : Url} (h : Url.parse? text = some server) :
    (location? server = none ↔ ¬ server.IsHierarchical) ∧
    (∀ {σ : Type} (env : Environment σ) (c : Client) (s : σ) (uri : String),
      (c.discover env server s).result = .error (.setup (.serverUri uri)) ↔
        ¬ server.IsHierarchical ∧ uri = server.render) ∧
    (∀ uri, location? server = some uri → IsReachedAs server uri) ∧
    (∀ query fragment,
      location? { server with query := query, fragment := fragment } = location? server) ∧
    (server.scheme = "http" ∨ server.scheme = "https" →
      ∃ uri, location? server = some uri ∧ IsBeneath server uri) := by
  have hparted := Url.isParted_of_parse? h
  have hnone : location? server = none ↔ ¬ server.IsHierarchical := by
    rw [location?_eq_none_iff, ← hparted.isBase_iff, Bool.not_eq_true]
  refine ⟨hnone, ?_, fun _ => isReachedAs_of_location?, location?_withQuery server, ?_⟩
  · intro σ env c s uri
    rw [serverUri_discover_iff, hnone]
  · intro hscheme
    obtain ⟨-, segments, -, hpath, -⟩ := hparted.exists_below hscheme
    have hbase : location? server ≠ none := by
      simp [location?_eq_none_iff, Url.isBase, hpath]
    obtain ⟨uri, hlocation⟩ := Option.ne_none_iff_exists'.mp hbase
    exact ⟨uri, hlocation, isBeneath_of_location? hparted hscheme hlocation⟩

/-- A server with credentials, a port and an escaped path. -/
def sampleServer : Url where
  scheme := "https"
  authority := some ⟨"u", "p", .ipv6 [0, 0, 0, 0, 0, 0, 0, 1], some 8443⟩
  guarded := false
  path := .rooted ["realm%20x"]
  query := some "x=1"
  fragment := some "f"

/-- The same place with a slash behind it and without one. -/
theorem location_of_sample_server :
    Url.parse? "https://u:p@[::1]:8443/realm%20x?x=1#f" = some sampleServer ∧
      ∃ other uri, Url.parse? "https://u:p@[::1]:8443/realm%20x/" = some other ∧
        location? sampleServer = some uri ∧ location? other = some uri ∧
        uri.path.render = "/realm%20x/.well-known/uma2-configuration" := by
  have hserver : Url.parse? "https://u:p@[::1]:8443/realm%20x?x=1#f" = some sampleServer := by
    decide +kernel
  let other : Url :=
    { sampleServer with path := .rooted ["realm%20x", ""], query := none, fragment := none }
  have hother : Url.parse? "https://u:p@[::1]:8443/realm%20x/" = some other := by decide +kernel
  have hlast : sampleServer.path.render.toList.getLast? ≠ some '/' := by decide
  have hslash : other.path.render = sampleServer.path.render ++ "/" := by decide
  obtain ⟨uri, hlocation, hbeneath⟩ := (location_of_parse hserver).2.2.2.2 (.inr rfl)
  exact ⟨hserver, other, uri, hother, hlocation,
    hbeneath.ofSlashed hlast _ other hother rfl rfl hslash, hbeneath.ofUnslashed hlast⟩

example : (Url.parse? "mailto:as@example.com").bind location? = none := by decide +kernel

end Metadata
end TicketGrant
