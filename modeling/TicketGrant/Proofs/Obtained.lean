import TicketGrant.Proofs.Disclosure
import TicketGrant.Proofs.Machine

/-!
# Obtaining a token from a server

A token is obtained in two parts: a discovery, and with the metadata that it finds a negotiation.
`Obtains` says how the first part decides about the second: a discovery that fails is the end, and
so is a server that names grants without the one for tickets; otherwise the rest of the run is the
negotiation, from the state in which the discovery left the environment. `obtains_of_play` says that
every run is of this form, and what it sends.
-/
namespace TicketGrant

open Http Dialogue Trace

/-- The server names the grant for tickets, or no grants at all. -/
def Metadata.Allows (metadata : Metadata) : Prop :=
  metadata.grantTypes.toList = [] ∨ ticketGrant ∈ metadata.grantTypes.toList

theorem Metadata.allowsTickets_iff {metadata : Metadata} :
    metadata.allowsTickets = true ↔ metadata.Allows := by
  rw [allowsTickets, Allows, Bool.or_eq_true, supports, Text.Ordered.contains_eq_true_iff]
  simp [Text.Ordered.isEmpty, Text.Ordered.toList]

section Found
variable {result : Except Failure Metadata}

theorem Metadata.not_allows_of_error {failure : Failure} (h : result = .error failure) :
    ¬ ∃ metadata, result = .ok metadata ∧ metadata.Allows := by
  rintro ⟨_, hok, -⟩
  cases h.symm.trans hok

theorem Metadata.not_allows_of_ok {metadata : Metadata} (h : result = .ok metadata)
    (hallows : ¬ metadata.Allows) : ¬ ∃ metadata, result = .ok metadata ∧ metadata.Allows := by
  rintro ⟨_, hok, hallowed⟩
  cases h.symm.trans hok
  exact hallows hallowed

end Found

/-- A play behind other turns. -/
def Dialogue.Played.behind {σ α : Type} (turns : List Turn) (p : Played σ α) : Played σ α :=
  { p with trace := turns ++ p.trace }

/-- A request for a document at a target. -/
structure Http.Request.AsksAt (sent : Request) (target : Target) : Prop where
  method : sent.method = .get
  target : sent.target = target
  headers : sent.headers = [.ofText "accept" "application/json"]
  body : sent.body = []

theorem Client.asksAt_metadataRequest (target : Target) : (metadataRequest target).AsksAt target :=
  ⟨rfl, rfl, rfl, rfl⟩

/-- A request at the token endpoint of some metadata. -/
structure Metadata.Receives (metadata : Metadata) (sent : Request) : Prop where
  method : sent.method = .post
  target : Target.ofUrl metadata.tokenEndpoint = .ok sent.target

/-- How a token is obtained, or not, from an environment in the state `s`. -/
inductive Obtains {σ : Type} (env : Environment σ) (c : Client) (server : Url)
    (request : TokenRequest) (s : σ) : Played σ (Except Failure Token) → Prop
  /-- The discovery failed. -/
  | undiscovered {turns failure s'} :
      Discovers c server turns (.error failure) → env.Answers turns s s' →
      Obtains env c server request s ⟨.error failure, s',
        framed .discovery "metadata" turns (.error failure : Except Failure Metadata)⟩
  /-- The server names other grants only. -/
  | unsupported {turns metadata s'} :
      Discovers c server turns (.ok metadata) → env.Answers turns s s' → ¬ metadata.Allows →
      Obtains env c server request s
        ⟨.error (.setup (.unsupportedGrant metadata.issuer.render ticketGrant)), s',
          framed .discovery "metadata" turns (.ok metadata)⟩
  /-- The metadata is used, in the state that the discovery has led to. -/
  | negotiated {turns metadata s'} :
      Discovers c server turns (.ok metadata) → env.Answers turns s s' → metadata.Allows →
      Obtains env c server request s (((Entry.token metadata).play env c request s').behind
        (framed .discovery "metadata" turns (.ok metadata)))

variable {σ : Type} {env : Environment σ} {c : Client} {server : Url} {request : TokenRequest}
  {s : σ}

/-- What a negotiation with metadata sends, its token endpoint receives. -/
theorem Entry.receives_of_play {metadata : Metadata} {sending : Request × Delivery}
    (h : sending ∈ sendings ((Entry.token metadata).play env c request s).trace) :
    metadata.Receives sending.1 := by
  have hutters := utters_run env (c.token metadata request).run s
  obtain ⟨_, _, _, hsends⟩ := Client.exists_sends_of_utters hutters h
  cases hsends with
  | sent _ htarget => exact ⟨rfl, htarget⟩

section Continues
variable (env : Environment σ) (c : Client)

/-- A run of a discovery. -/
def Client.discover (server : Url) (s : σ) : Played σ (Except Failure Metadata) :=
  (c.metadata server).run.run env s

/-- What an errand comes to, once its server has been discovered or not. -/
inductive Errand.Continues (request : TokenRequest) (found : Played σ (Except Failure Metadata)) :
    Played σ (Except Failure Token) → Prop
  | undiscovered {failure} :
      found.result = .error failure →
      Continues request found ⟨.error failure, found.state, found.trace⟩
  /-- The server names other grants only. -/
  | unsupported {metadata} :
      found.result = .ok metadata → ¬ metadata.Allows →
      Continues request found
        ⟨.error (.setup (.unsupportedGrant metadata.issuer.render ticketGrant)), found.state,
          found.trace⟩
  | negotiated {metadata} :
      found.result = .ok metadata → metadata.Allows →
      Continues request found
        (((Entry.token metadata).play env c request found.state).behind found.trace)

theorem Errand.continues_play (request : TokenRequest) (server : Url) (s : σ) :
    Continues env c request (c.discover env server s)
      ((Errand.obtain server).play env c request s) := by
  rw [Errand.play, Errand.flow, Client.obtainToken, Flow.run_bind, run_bind]
  have hfound : (c.metadata server).run.run env s = c.discover env server s := rfl
  rw [hfound]
  generalize c.discover env server s = found
  obtain ⟨result, state, trace⟩ := found
  dsimp only
  cases result with
  | error failure =>
    change Continues env c request ⟨.error failure, state, trace⟩ ⟨_, _, trace ++ []⟩
    rw [List.append_nil]
    exact .undiscovered rfl
  | ok metadata =>
    rw [ExceptT.bindCont]
    split
    · rename_i hallows
      exact .negotiated rfl (Metadata.allowsTickets_iff.mp hallows)
    · rename_i hallows
      change Continues env c request ⟨.ok metadata, state, trace⟩ ⟨_, _, trace ++ []⟩
      rw [List.append_nil]
      exact .unsupported rfl fun h => hallows (Metadata.allowsTickets_iff.mpr h)

end Continues

/-- A run is a discovery, and then a negotiation if the metadata allows one. -/
theorem obtains_run (env : Environment σ) (c : Client) (server : Url) (request : TokenRequest)
    (s : σ) :
    Obtains env c server request s ((Errand.obtain server).play env c request s) := by
  have hcontinues := Errand.continues_play env c request server s
  obtain ⟨hutters, hanswers⟩ :=
    (run_eq_iff (c.metadata server).run s (c.discover env server s)).mp rfl
  obtain ⟨turns, htrace, hdiscovers⟩ := Client.discovers_of_utters hutters
  generalize c.discover env server s = found at *
  obtain ⟨result, s', trace⟩ := found
  dsimp only at htrace hanswers hdiscovers
  subst htrace
  rw [answers_framed_iff] at hanswers
  generalize (Errand.obtain server).play env c request s = p at hcontinues ⊢
  cases hcontinues with
  | undiscovered hresult =>
    cases hresult
    exact .undiscovered hdiscovers hanswers
  | unsupported hresult hallows =>
    cases hresult
    exact .unsupported hdiscovers hanswers hallows
  | negotiated hresult hallows =>
    cases hresult
    exact .negotiated hdiscovers hanswers hallows

/-- What is sent behind the discovery is received by an endpoint of metadata that was found. -/
theorem Obtains.exists_discovers {p : Played σ (Except Failure Token)}
    (h : Obtains env c server request s p) :
    ∃ turns r later, Discovers c server turns r ∧ sendings p.trace = sendings turns ++ later ∧
      ∀ sending ∈ later, ∃ metadata, r = .ok metadata ∧ metadata.Allows ∧
        metadata.Receives sending.1 := by
  cases h with
  | @undiscovered turns failure _ hdiscovers =>
    exact ⟨turns, _, [], hdiscovers, by rw [sendings_framed, List.append_nil], by simp⟩
  | @unsupported turns metadata _ hdiscovers =>
    exact ⟨turns, _, [], hdiscovers, by rw [sendings_framed, List.append_nil], by simp⟩
  | @negotiated turns metadata s' hdiscovers _ hallows =>
    refine ⟨turns, _, sendings ((Entry.token metadata).play env c request s').trace, hdiscovers, ?_,
      fun sending hmem => ⟨metadata, rfl, hallows, Entry.receives_of_play hmem⟩⟩
    rw [Played.behind, sendings_append, sendings_framed]

/-- A token is obtained from a server by one request for its metadata, and then by the negotiation
that the metadata allows, or it fails by the rule for the first gate that was not passed. The
request for metadata is a GET at the place of the document, and is sent exactly if it can be built;
any other is received by the token endpoint of metadata that this request has brought and that every
gate has let through. -/
theorem obtains_of_play {σ : Type} (env : Environment σ) (c : Client) (server : Url)
    (request : TokenRequest) (s : σ) :
    let p := (Errand.obtain server).play env c request s
    Obtains env c server request s p ∧
    (∀ uri target, Metadata.IsAt server uri target →
      ∃ sent delivery later, sendings p.trace = (sent, delivery) :: later ∧ sent.AsksAt target ∧
        ∀ sending ∈ later, ∃ turns metadata, sendings turns = [(sent, delivery)] ∧
          Discovers c server turns (.ok metadata) ∧ metadata.Allows ∧
          metadata.Receives sending.1) ∧
    ((∀ uri target, ¬ Metadata.IsAt server uri target) → sendings p.trace = []) := by
  intro p
  have hobtains : Obtains env c server request s p := obtains_run env c server request s
  obtain ⟨turns, r, later, hdiscovers, hsendings, hlater⟩ := hobtains.exists_discovers
  refine ⟨hobtains, fun uri target hat => ?_, fun hnowhere => ?_⟩
  · obtain ⟨delivery, hfirst⟩ := hdiscovers.sendings_eq hat
    refine ⟨_, delivery, later, by rw [hsendings, hfirst]; rfl,
      Client.asksAt_metadataRequest target, fun sending hmem => ?_⟩
    obtain ⟨metadata, rfl, hallows, hreceives⟩ := hlater sending hmem
    exact ⟨turns, metadata, hfirst, hdiscovers, hallows, hreceives⟩
  · have hnone : later = [] := by
      refine List.eq_nil_iff_forall_not_mem.mpr fun sending hmem => ?_
      obtain ⟨metadata, rfl, -⟩ := hlater sending hmem
      cases hdiscovers with
      | found hat => exact hnowhere _ _ hat
    rw [hsendings, hnone, hdiscovers.sendings_eq_nil hnowhere, List.append_nil]

namespace Sample

/-- A server on the local host. -/
def localServer : Url where
  scheme := "https"
  authority := some ⟨"", "", .ipv6 [0, 0, 0, 0, 0, 0, 0, 1], none⟩
  guarded := false
  path := .rooted [""]
  query := none
  fragment := none

/-- Its metadata, with one grant. -/
def document (grantType : String) : Delivery :=
  ⟨[], .ok ⟨⟨200⟩, [], Utf8.encode ("\x7b\"issuer\":\"https://[::1]/\"," ++
    "\"token_endpoint\":\"https://[::1]/token\"," ++
    "\"grant_types_supported\":[\"" ++ grantType ++ "\"]\x7d")⟩⟩

end Sample

/-- The grant decides about the negotiation: with another one there is no token request. -/
theorem obtains_of_local_server :
    let play (grantType : String) :=
      (Errand.obtain Sample.localServer).play Script.environment {} { ticket := "first" }
        (Sample.script [Sample.document grantType, Sample.grant])
    let sent (grantType : String) :=
      (sendings (play grantType).trace).map fun sending =>
        (sending.1.method, sending.1.target.text)
    (∀ grantType, ∃ asked delivery later,
      sendings (play grantType).trace = (asked, delivery) :: later ∧
        asked.AsksAt ⟨"https://[::1]/.well-known/uma2-configuration"⟩) ∧
    sent ticketGrant = [(.get, "https://[::1]/.well-known/uma2-configuration"),
      (.post, "https://[::1]/token")] ∧
    sent "password" = [(.get, "https://[::1]/.well-known/uma2-configuration")] ∧
    (play "password").result =
      .error (.setup (.unsupportedGrant "https://[::1]/" ticketGrant)) := by
  intro play sent
  have hat : ∃ uri, Metadata.IsAt Sample.localServer uri
      ⟨"https://[::1]/.well-known/uma2-configuration"⟩ := ⟨_, rfl, by rfl⟩
  obtain ⟨uri, hat⟩ := hat
  refine ⟨fun grantType => ?_, by decide +kernel, by decide +kernel,
    failure?_eq_some_iff.mp (by decide +kernel)⟩
  obtain ⟨-, hasks, -⟩ := obtains_of_play Script.environment {} Sample.localServer
    { ticket := "first" } (Sample.script [Sample.document grantType, Sample.grant])
  obtain ⟨asked, delivery, later, hsendings, hasked, -⟩ := hasks _ _ hat
  exact ⟨asked, delivery, later, hsendings, hasked⟩

end TicketGrant
