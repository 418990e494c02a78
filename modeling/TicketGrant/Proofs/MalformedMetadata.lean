import TicketGrant.Proofs.Json.Accepted
import TicketGrant.Proofs.Json.Places
import TicketGrant.Proofs.Json.Written
import TicketGrant.Proofs.Session

/-!
# Malformed metadata

A metadata document with one fault is told by the place of the fault. Where the value of a field is no
URL or no list, this is the field; where a list holds something that is no text, it is the first such
element; and where a field is missing that has no default, it is the document. Neither the order of the
members nor other members matter, and the discovery fails with just this fault
(`place_of_oneFault`).
-/
namespace TicketGrant

open Json Record Http Dialogue Trace

/-! ### Values that are not what their field wants -/

theorem Url.decode_of_unparsed {node : Node}
    (h : ∀ text, node = .text (some text) → Url.parse? text = none) : Url.decode node = .error [] := by
  cases node with
  | text content =>
    cases content with
    | none => exact Decoder.filterMap_of_error rfl
    | some text => exact Decoder.filterMap_of_none rfl (h text rfl)
  | _ => exact Decoder.filterMap_of_error rfl

theorem Json.Decoder.nullable_of_ne {α : Type} {decoder : Decoder α} {node : Node}
    (h : node ≠ .null) : decoder.nullable node = (decoder node).map some := by
  cases node with
  | null => exact absurd rfl h
  | _ => rfl

theorem Json.Decoder.text_of_ne {node : Node} (h : ∀ text, node ≠ .text (some text)) :
    Decoder.text node = .error [] := by
  cases node with
  | text content =>
    cases content with
    | none => rfl
    | some text => exact absurd rfl (h text)
  | _ => rfl

namespace Text.Ordered

theorem decode_of_ne {node : Node} (h : ∀ items ending, node ≠ .list items ending) :
    Ordered.decode node = .error [] := by
  cases node with
  | list items ending => exact absurd rfl (h items ending)
  | _ => rfl

/-- A list is at fault where it first holds something that is no text. -/
theorem decode_of_item {texts : List String} {item : Node} {rest : List Node} {ending : Json.Ending}
    (h : ∀ text, item ≠ .text (some text)) :
    Ordered.decode (.list (texts.map (fun text => .text (some text)) ++ item :: rest) ending) =
      .error [.index texts.length] := by
  have htexts : ∀ node ∈ texts.map (fun text => Node.text (some text)),
      ∃ text, Decoder.text node = .ok text := by
    rintro _ hnode
    obtain ⟨text, -, rfl⟩ := List.mem_map.mp hnode
    exact ⟨text, rfl⟩
  rw [Ordered.decode, Decoder.list, Decoder.items_of_fault htexts (Decoder.text_of_ne h),
    List.length_map, Nat.zero_add]
  rfl

end Text.Ordered

namespace Metadata

/-- A value that a field cannot have, with what is written behind the name of the field to point to the
fault. -/
inductive Malforms : String → Node → String → Prop
  | url {name : String} {node : Node} :
      name ∈ ["issuer", "token_endpoint", "jwks_uri"] →
      (name = "jwks_uri" → node ≠ .null) →
      (∀ text, node = .text (some text) → Url.parse? text = none) → Malforms name node ""
  | list {name : String} {node : Node} :
      name ∈ ["grant_types_supported", "dpop_signing_alg_values_supported", "uma_profiles_supported"] →
      (∀ items ending, node ≠ .list items ending) → Malforms name node ""
  | item {name : String} {texts : List String} {item : Node} {rest : List Node} :
      name ∈ ["grant_types_supported", "dpop_signing_alg_values_supported", "uma_profiles_supported"] →
      (∀ text, item ≠ .text (some text)) →
      Malforms name (.list (texts.map (fun text => .text (some text)) ++ item :: rest) .closed)
        ("[" ++ toString texts.length ++ "]")

/-- The members of an object are metadata but for one fault, and the place of the fault is written so. -/
inductive HasOneFault : List (Option String × Node) → String → Prop
  | malformed {before after : List (Option String × Node)} {name mark : String} {good bad : Node}
        {metadata : Metadata} :
      decode (.object (before ++ (some name, good) :: after) .closed) = .ok metadata →
      Malforms name bad mark → HasOneFault (before ++ (some name, bad) :: after) (name ++ mark)
  | missing {before after : List (Option String × Node)} {name : String} {value : Node}
        {metadata : Metadata} :
      name ∈ ["issuer", "token_endpoint"] →
      decode (.object (before ++ (some name, value) :: after) .closed) = .ok metadata →
      HasOneFault (before ++ after) "."

/-! ### Fields -/

/-- A field is declared with a decoder for its value. -/
def Declares {α : Type} (name : String) (decoder : Decoder α) : Prop :=
  ∃ elidable, record.slots.find? (·.name == name) =
    some ⟨name, fun node => (decoder node).map fun _ => (), elidable⟩

variable {name : String}

theorem declares_url (h : name ∈ ["issuer", "token_endpoint"]) : Declares name Url.decode := by
  simp only [List.mem_cons, List.not_mem_nil, or_false] at h
  rcases h with rfl | rfl <;> exact ⟨_, rfl⟩

theorem declares_list (h : name ∈ ["grant_types_supported", "dpop_signing_alg_values_supported",
    "uma_profiles_supported"]) : Declares name Text.Ordered.decode := by
  simp only [List.mem_cons, List.not_mem_nil, or_false] at h
  rcases h with rfl | rfl | rfl <;> exact ⟨_, rfl⟩

/-- The check of a field stops where its decoder does. -/
theorem Declares.exists_slot {α : Type} {decoder : Decoder α} (h : Declares name decoder)
    {bad : Node} {place : Path} (hbad : decoder bad = .error place) :
    ∃ slot, record.slots.find? (·.name == name) = some slot ∧ slot.check bad = .error place := by
  obtain ⟨elidable, hslot⟩ := h
  exact ⟨_, hslot, congrArg (Except.map fun _ => ()) hbad⟩

theorem render_key (name : String) : Path.render [.key name] = name ++ "" := by
  simp [Path.render, Segment.render, String.join]

theorem render_index (name : String) (position : Nat) :
    Path.render [.key name, .index position] = name ++ ("[" ++ toString position ++ "]") := by
  simp [Path.render, Segment.render, String.join, String.append_assoc]

/-- A value that a field cannot have fails the check of the field, at the place that is marked. -/
theorem Malforms.exists_slot {bad : Node} {mark : String} (h : Malforms name bad mark) :
    ∃ slot place, record.slots.find? (·.name == name) = some slot ∧
      slot.check bad = .error place ∧ Path.render (.key name :: place) = name ++ mark := by
  cases h with
  | url hname hnull hunparsed =>
    have hbad := Url.decode_of_unparsed hunparsed
    by_cases hkeys : name = "jwks_uri"
    · have hdeclares : Declares name Url.decode.nullable := hkeys ▸ ⟨_, rfl⟩
      have hnullable : Url.decode.nullable bad = .error [] := by
        rw [Decoder.nullable_of_ne (hnull hkeys), hbad]
        rfl
      obtain ⟨slot, hslot, hcheck⟩ := hdeclares.exists_slot hnullable
      exact ⟨slot, [], hslot, hcheck, render_key name⟩
    · have hrequired : name ∈ ["issuer", "token_endpoint"] := by simpa [hkeys] using hname
      obtain ⟨slot, hslot, hcheck⟩ := (declares_url hrequired).exists_slot hbad
      exact ⟨slot, [], hslot, hcheck, render_key name⟩
  | list hname hlist =>
    obtain ⟨slot, hslot, hcheck⟩ :=
      (declares_list hname).exists_slot (Text.Ordered.decode_of_ne hlist)
    exact ⟨slot, [], hslot, hcheck, render_key name⟩
  | item hname hitem =>
    obtain ⟨slot, hslot, hcheck⟩ :=
      (declares_list hname).exists_slot (Text.Ordered.decode_of_item hitem)
    exact ⟨slot, _, hslot, hcheck, render_index name _⟩

/-- Two fields have no default. -/
theorem needs_of_mem (h : name ∈ ["issuer", "token_endpoint"]) : record.Needs name := by
  simp only [List.mem_cons, List.not_mem_nil, or_false] at h
  rcases h with rfl | rfl
  · exact ((needs_required _ _).map _).seq.seq.seq.seq.seq
  · refine ((needs_required "token_endpoint" Url.decode).of_argument ?_ (by decide)).seq.seq.seq.seq
    exact (isLocal_pure _).seq (isLocal_field _ _ _ _)

/-! ### Documents and discoveries -/

/-- Decoding stops at the one fault. -/
theorem HasOneFault.exists_place {members : List (Option String × Node)} {path : String}
    (h : HasOneFault members path) :
    ∃ place, Path.render place = path ∧
      Metadata.decode (.object members .closed) = .error place := by
  cases h with
  | malformed hgood hbad =>
    obtain ⟨slot, place, hslot, hcheck, hrender⟩ := hbad.exists_slot
    exact ⟨_, hrender, decode_of_fault hslot hcheck hgood⟩
  | missing hname hgood =>
    have hdeclared : ∀ name ∈ ["issuer", "token_endpoint"],
        name ∈ record.slots.map (·.name) := by decide
    exact ⟨[], rfl, decode_of_missing (needs_of_mem hname) (hdeclared _ hname) hgood⟩

/-- A discovery that has a document with a fault fails with this fault. -/
theorem malformed_discover {σ : Type} (env : Environment σ) (c : Client) (server : Url) (s : σ)
    {response : Response} {fault : Json.Fault}
    (hlast : lastResponse? (c.discover env server s).trace = some response)
    (hsuccess : response.status.isSuccess = true)
    (hfault : c.codec.decode Metadata.decode response.body = .error fault) :
    ∃ uri, location? server = some uri ∧ (c.discover env server s).result =
      .error (.metadataMalformed uri (some response.status) (.unreadable fault)) := by
  obtain ⟨inner, htrace, hdiscovers⟩ := c.discovers_discover env server s
  rw [htrace, lastResponse?, sendings_framed] at hlast
  generalize (c.discover env server s).result = result at hdiscovers
  cases hdiscovers with
  | baseless | unbuilt | undelivered => cases hlast
  | refused hat hrefused =>
    cases hlast
    rw [hsuccess] at hrefused
    cases hrefused
  | unreadable hat _ hunreadable =>
    cases hlast
    cases hunreadable.symm.trans hfault
    exact ⟨_, hat.location, rfl⟩
  | insecure _ _ hdecode | found _ _ hdecode =>
    cases hlast
    cases hdecode.symm.trans hfault

/-- A document that is metadata but for one fault is not read as metadata, and the place of the fault is
told; a discovery that is answered with it fails, and has this fault for its source. -/
theorem place_of_oneFault {members : List (Option String × Node)} {path : String} {body : Bytes}
    (hspells : Spells (.padded (.object members .closed)) body)
    (hfault : HasOneFault members path) :
    ∃ place, Path.render place = path ∧
      Codec.plain.decode Metadata.decode body = .error (.decoding place) ∧
      ∀ {σ : Type} (env : Environment σ) (c : Client) (server : Url) (s : σ) (status : Status)
          (headers : List Header),
        c.codec = .plain → status.isSuccess = true →
        lastResponse? (c.discover env server s).trace = some ⟨status, headers, body⟩ →
        ∃ uri, location? server = some uri ∧ (c.discover env server s).result =
          .error (.metadataMalformed uri (some status) (.unreadable (.decoding place))) := by
  obtain ⟨place, hpath, hdecode⟩ := hfault.exists_place
  have hbody : Codec.plain.decode Metadata.decode body = .error (.decoding place) := by
    rw [Codec.plain_decode, Json.decode, read_of_spells hspells, hdecode]
    rfl
  refine ⟨place, hpath, hbody, fun env c server s status headers hplain hsuccess hlast => ?_⟩
  exact malformed_discover env c server s hlast hsuccess (by rw [hplain, hbody])

/-- The second grant is an integer, and the members stand in an order of their own. -/
theorem place_of_second_grant :
    let written := Value.record [("version", .integer 2),
      ("grant_types_supported", .list [.text "password", .integer 7, .null]),
      ("token_endpoint", .text "https://[::1]/token"), ("issuer", .text "https://[::1]/")]
    let body := Utf8.encode written.render
    let p := ({} : Client).discover Script.environment Sample.localServer
      (Sample.script [⟨[], .ok ⟨⟨200⟩, [], body⟩⟩])
    ∃ place uri, Path.render place = "grant_types_supported[1]" ∧
      Codec.plain.decode Metadata.decode body = .error (.decoding place) ∧
      p.result = .error (.metadataMalformed uri (some ⟨200⟩) (.unreadable (.decoding place))) := by
  intro written body p
  let before := [(some "version", Node.number (some 2))]
  let after := [(some "token_endpoint", Node.text (some "https://[::1]/token")),
    (some "issuer", Node.text (some "https://[::1]/"))]
  let good := Node.list [.text (some "password")] .closed
  let bad := Node.list [.text (some "password"), .number (some 7), .null] .closed
  have hgood : Metadata.decode (.object (before ++ (some "grant_types_supported", good) :: after)
        .closed) = .ok ⟨Sample.localServer, { Sample.localServer with path := .rooted ["token"] },
      none, .ofList ["password"], .empty, .empty⟩ := by
    decide +kernel
  have hbad : Malforms "grant_types_supported" bad "[1]" :=
    @Malforms.item _ ["password"] (.number (some 7)) [.null] (by decide) nofun
  have hspells : Spells (.padded (.object (before ++ (some "grant_types_supported", bad) :: after)
      .closed)) body := written.spells_render
  obtain ⟨place, hrender, hdecode, hreports⟩ := place_of_oneFault hspells (.malformed hgood hbad)
  have hlast : lastResponse? p.trace = some ⟨⟨200⟩, [], body⟩ := by decide +kernel
  obtain ⟨uri, -, hresult⟩ := hreports _ _ _ _ _ _ rfl (by decide) hlast
  exact ⟨place, uri, hrender, hdecode, hresult⟩

end Metadata
end TicketGrant
