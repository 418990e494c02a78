import TicketGrant.Discovery
import TicketGrant.Proofs.Trace

/-!
# Discoveries

What comes of a discovery: one rule for each gate that a metadata document has to pass, in their
order, and one for a document that passes all of them. `Client.discovers_of_utters` says that
nothing else happens, whatever the answer to the request is.
-/
namespace TicketGrant

open Http Dialogue Trace

/-- The document of a server is at a URL, and a request for it goes to a target. -/
structure Metadata.IsAt (server uri : Url) (target : Target) : Prop where
  location : Metadata.location? server = some uri
  target : Target.ofUrl uri = .ok target

/-- The turns of a discovery, and what it comes to. -/
inductive Discovers (c : Client) (server : Url) : List Turn → Except Failure Metadata → Prop
  /-- Nothing is below the server's URL. -/
  | baseless :
      server.isBase = false →
      Discovers c server [] (.error (.setup (.serverUri server.render)))
  /-- The request cannot be built. -/
  | unbuilt {uri fault} :
      Metadata.location? server = some uri → Target.ofUrl uri = .error fault →
      Discovers c server [] (.error (.setup (.request fault)))
  /-- No answer came; the slot may hold the head of one. -/
  | undelivered {uri target actions fault failure} :
      Metadata.IsAt server uri target →
      Discovers c server [.sent (Client.metadataRequest target) ⟨actions, .error fault⟩,
          .explained (Flow.held actions) fault failure]
        (.error (.metadataUnavailable uri ((Flow.held actions).bind (·.status)) (some failure)))
  | refused {uri target actions response} :
      Metadata.IsAt server uri target → response.status.isSuccess = false →
      Discovers c server [.sent (Client.metadataRequest target) ⟨actions, .ok response⟩]
        (.error (.metadataUnavailable uri (some response.status) none))
  | unreadable {uri target actions response fault} :
      Metadata.IsAt server uri target → response.status.isSuccess = true →
      c.codec.decode Metadata.decode response.body = .error fault →
      Discovers c server [.sent (Client.metadataRequest target) ⟨actions, .ok response⟩]
        (.error (.metadataMalformed uri (some response.status) (.unreadable fault)))
  /-- An endpoint of the document, or its issuer, is not reached by HTTPS as it has to be. -/
  | insecure {uri target actions response metadata field endpoint} :
      Metadata.IsAt server uri target → response.status.isSuccess = true →
      c.codec.decode Metadata.decode response.body = .ok metadata →
      c.config.requireHttps = true → metadata.insecure? = some (field, endpoint) →
      Discovers c server [.sent (Client.metadataRequest target) ⟨actions, .ok response⟩]
        (.error (.metadataMalformed uri (some response.status) (.insecure field endpoint)))
  | found {uri target actions response metadata} :
      Metadata.IsAt server uri target → response.status.isSuccess = true →
      c.codec.decode Metadata.decode response.body = .ok metadata →
      (c.config.requireHttps = true →
        metadata.issuer.scheme = "https" ∧ metadata.tokenEndpoint.scheme = "https") →
      Discovers c server [.sent (Client.metadataRequest target) ⟨actions, .ok response⟩]
        (.ok metadata)

/-- Only a URL with a bare path has nothing below it. -/
theorem Metadata.location?_eq_none_iff {server : Url} :
    location? server = none ↔ server.isBase = false := by
  rw [location?, Url.appendSegments?, Url.isBase]
  cases server.path <;> simp

/-- Issuer and token endpoint are looked at, and both are named by their fields. -/
theorem Metadata.insecure?_eq_none_iff {metadata : Metadata} :
    metadata.insecure? = none ↔
      metadata.issuer.scheme = "https" ∧ metadata.tokenEndpoint.scheme = "https" := by
  simp [insecure?]

/-- What an answer with a document comes to. -/
theorem Client.discovers_of_answer {c : Client} {server uri : Url} {target : Target}
    (hat : Metadata.IsAt server uri target) (actions : List Slot.Action) (response : Response) :
    Discovers c server [.sent (metadataRequest target) ⟨actions, .ok response⟩]
      (c.metadataIn uri response) := by
  unfold metadataIn
  cases hsuccess : response.status.isSuccess with
  | false => exact .refused hat hsuccess
  | true =>
    simp only [Bool.not_true, Bool.false_eq_true, if_false]
    cases hdecode : c.codec.decode Metadata.decode response.body with
    | error fault => exact .unreadable hat hsuccess hdecode
    | ok metadata =>
      dsimp only
      cases hinsecure : metadata.insecure? with
      | none =>
        exact .found hat hsuccess hdecode fun _ => Metadata.insecure?_eq_none_iff.mp hinsecure
      | some named =>
        obtain ⟨field, endpoint⟩ := named
        cases hrequired : c.config.requireHttps with
        | true => exact .insecure hat hsuccess hdecode hrequired hinsecure
        | false =>
          refine .found hat hsuccess hdecode fun htrue => ?_
          rw [hrequired] at htrue
          cases htrue

/-- Whatever the answer is, a discovery follows the rules. -/
theorem Client.discovers_of_utters {c : Client} {server : Url} {turns : List Turn}
    {r : Except Failure Metadata} (h : (c.metadata server).Utters turns r) :
    ∃ inner, turns = framed .discovery "metadata" inner r ∧ Discovers c server inner r := by
  obtain ⟨inner, rfl, hinner⟩ := Flow.utters_observed_iff.mp h
  refine ⟨inner, rfl, ?_⟩
  rw [fetchMetadata] at hinner
  cases hlocation : Metadata.location? server with
  | none =>
    rw [hlocation] at hinner
    obtain ⟨rfl, rfl⟩ := Flow.utters_throw_iff.mp hinner
    exact .baseless (Metadata.location?_eq_none_iff.mp hlocation)
  | some uri =>
    rw [hlocation] at hinner
    rcases Flow.utters_ofExcept_bind_iff.mp hinner with
      ⟨fault, hfault, rfl, rfl⟩ | ⟨target, htarget, hinner⟩
    · exact .unbuilt hlocation hfault
    obtain ⟨answer, first, rest, rfl, hsend, hrest⟩ := Flow.utters_lift_bind_iff.mp hinner
    have hat : Metadata.IsAt server uri target := ⟨hlocation, htarget⟩
    rcases Flow.utters_send_iff.mp hsend with ⟨actions, response, rfl, rfl⟩ |
      ⟨actions, fault, failure, rfl, rfl⟩
    · rcases Flow.utters_ofExcept_bind_iff.mp hrest with ⟨_, hfault, -⟩ | ⟨_, hanswer, hrest⟩
      · cases hfault
      cases hanswer
      obtain ⟨rfl, rfl⟩ := Flow.utters_ofExcept_iff.mp hrest
      have hresult : (c.metadataIn uri response).mapError id = c.metadataIn uri response := by
        cases c.metadataIn uri response <;> rfl
      rw [List.append_nil, hresult]
      exact discovers_of_answer hat actions response
    · rcases Flow.utters_ofExcept_bind_iff.mp hrest with ⟨_, hfault, rfl, rfl⟩ | ⟨_, hanswer, -⟩
      · cases hfault
        rw [List.append_nil]
        exact .undelivered hat
      · cases hanswer

namespace Discovers

variable {c : Client} {server : Url} {turns : List Turn} {r : Except Failure Metadata}

/-- A discovery sends one request, if the document has a place and the request can be built. -/
theorem sendings_eq (h : Discovers c server turns r) {uri : Url} {target : Target}
    (hat : Metadata.IsAt server uri target) :
    ∃ delivery, sendings turns = [(Client.metadataRequest target, delivery)] := by
  have hsame {uri' : Url} {target' : Target} (hat' : Metadata.IsAt server uri' target') :
      target' = target := by
    have huri := hat'.location.symm.trans hat.location
    cases huri
    exact Except.ok.inj (hat'.target.symm.trans hat.target)
  cases h with
  | baseless hbase =>
    have hnone := hat.location.symm.trans (Metadata.location?_eq_none_iff.mpr hbase)
    cases hnone
  | unbuilt hlocation hfault =>
    cases hlocation.symm.trans hat.location
    cases hfault.symm.trans hat.target
  | undelivered hat' | refused hat' | unreadable hat' | insecure hat' | found hat' =>
    rw [hsame hat']
    exact ⟨_, rfl⟩

/-- Otherwise it sends nothing. -/
theorem sendings_eq_nil (h : Discovers c server turns r)
    (hnowhere : ∀ uri target, ¬ Metadata.IsAt server uri target) : sendings turns = [] := by
  cases h with
  | baseless | unbuilt => rfl
  | undelivered hat | refused hat | unreadable hat | insecure hat | found hat =>
    exact absurd hat (hnowhere _ _)

theorem eq_metadataRequest (h : Discovers c server turns r) {sending : Request × Delivery}
    (hmem : sending ∈ sendings turns) : ∃ target, sending.1 = Client.metadataRequest target := by
  cases h with
  | baseless | unbuilt => cases hmem
  | undelivered | refused | unreadable | insecure | found =>
    cases List.mem_singleton.mp hmem
    exact ⟨_, rfl⟩

/-- The resolver is not called. -/
theorem resolutions_eq_nil (h : Discovers c server turns r) : resolutions turns = [] := by
  cases h <;> rfl

/-- All that is observed of a discovery stands around it. -/
theorem observations_eq_nil (h : Discovers c server turns r) : observations turns = [] := by
  cases h <;> rfl

end Discovers
end TicketGrant
