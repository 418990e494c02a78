import TicketGrant.Proofs.Credentials
import TicketGrant.Proofs.Discovery
import TicketGrant.Proofs.Redaction
import TicketGrant.Proofs.RoundTrace

/-!
# What is disclosed

To whom a client's secret is told. Every request of every run shows the credentials of the client's
method and no others. Where the method shows no secret, the secret makes no difference at all; where
it stands in the `Authorization` field, it makes a difference only there (`discloses_of_play`).
-/
namespace TicketGrant

open Http Dialogue Trace

/-! ### One request -/

/-- What a request shows of a client: the values of its `Authorization` fields, and the entries at
the end of its form. No entry before these is a credential. -/
structure ShowsCredentials (sent : Request) (authorizations : List String)
    (entries : List (String × String)) : Prop where
  fields : fieldValues sent.headers "authorization" = authorizations.map Utf8.encode
  form : ∃ grant, Form.decode sent.body = grant ++ entries ∧
    ∀ entry ∈ grant, entry.1 ≠ "client_id" ∧ entry.1 ≠ "client_secret"

/-- A request shows the credentials of a client's method, and no others. -/
structure Client.ShownIn (c : Client) (sent : Request) : Prop where
  /-- In the value of the field the identifier and the secret are read. -/
  basic : ∀ id secret, c.config.clientAuth = .basic → c.clientId = some id →
    c.clientSecret = some secret →
    ReadAsBasic (basicAuthorization id secret) id secret ∧
      ShowsCredentials sent [basicAuthorization id secret] []
  post : ∀ id secret, c.config.clientAuth = .post → c.clientId = some id →
    c.clientSecret = some secret →
    ShowsCredentials sent [] [("client_id", id), ("client_secret", secret.expose)]
  /-- A secret is shown only by the methods for it, and only with an identifier. -/
  otherwise : c.config.clientAuth = .none ∨ c.clientId = none ∨ c.clientSecret = none →
    ShowsCredentials sent [] (c.clientId.toList.map fun id => ("client_id", id))

/-- The parameters of a grant. -/
def TokenRequest.names : List String :=
  ["grant_type", "ticket"] ++ ["claim_token", "claim_token_format"] ++ ["pop"] ++
    ["code_verifier"] ++ ["pct"] ++ ["rpt"] ++ ["scope"]

/-- A form has the parameters of the grant in their order, and each at most once. -/
theorem TokenRequest.sublist_names (request : TokenRequest) (delimiter : Char) :
    ((request.entries delimiter).map Prod.fst).Sublist names := by
  have hentry (name : String) (value : Option Secret) :
      ((entry name value).map Prod.fst).Sublist [name] := by
    cases value <;> simp [entry]
  have hclaim : ((claimEntries request.claimToken).map Prod.fst).Sublist
      ["claim_token", "claim_token_format"] := by
    unfold claimEntries
    split <;> simp
  have hscope : (((request.scope.delimited delimiter).toList.map
      fun scope => ("scope", scope)).map Prod.fst).Sublist ["scope"] := by
    cases request.scope.delimited delimiter <;> simp
  simp only [entries, List.map_append]
  exact ((((((List.Sublist.refl _).append hclaim).append (hentry ..)).append (hentry ..)).append
    (hentry ..)).append (hentry ..)).append hscope

/-- No parameter of a grant is a credential. -/
theorem TokenRequest.ne_of_mem_entries {request : TokenRequest} {delimiter : Char}
    {e : String × String} (h : e ∈ request.entries delimiter) :
    e.1 ≠ "client_id" ∧ e.1 ≠ "client_secret" := by
  have hname := (request.sublist_names delimiter).subset (List.mem_map_of_mem h)
  have hnone : ∀ name ∈ names, name ≠ "client_id" ∧ name ≠ "client_secret" := by decide
  exact hnone _ hname

namespace Client
variable (c : Client) (target : Target) (request : TokenRequest) (proof : Option String)

/-- A token request shows the credentials that the client has for it. -/
theorem showsCredentials_httpRequest :
    ShowsCredentials (c.httpRequest target request proof) c.credentials.authorization.toList
      c.credentials.entries where
  fields := c.fieldValues_authorization target request proof
  form := ⟨request.entries c.config.scopeDelimiter,
    by rw [httpRequest, TokenRequest.formBody, Form.decode_encode],
    fun _ => TokenRequest.ne_of_mem_entries⟩

/-- Without a method, an identifier or a secret there are no credentials but the identifier. -/
theorem credentials_of_otherwise
    (h : c.config.clientAuth = .none ∨ c.clientId = none ∨ c.clientSecret = none) :
    c.credentials = { entries := c.clientId.toList.map fun id => ("client_id", id) } := by
  unfold credentials
  split <;> simp_all

theorem shownIn_httpRequest : c.ShownIn (c.httpRequest target request proof) := by
  have h := c.showsCredentials_httpRequest target request proof
  constructor
  · intro id secret hmethod hid hsecret
    rw [credentials_of_basic hmethod hid hsecret] at h
    exact ⟨readAsBasic_basicAuthorization id secret, h⟩
  · intro id secret hmethod hid hsecret
    rwa [credentials, hmethod, hid, hsecret] at h
  · intro hother
    rwa [c.credentials_of_otherwise hother] at h

end Client

/-! ### Errands -/

/-- What a client can be sent for. -/
inductive Errand where
  /-- A negotiation. -/
  | negotiate (entry : Entry)
  /-- A token from a server that is to be discovered first. -/
  | obtain (server : Url)

namespace Errand

/-- What the client does. -/
def flow (c : Client) (request : TokenRequest) : Errand → Flow Token
  | .negotiate entry => entry.flow c request
  | .obtain server => c.obtainToken server request

/-- A run of the errand. -/
def play {σ : Type} (env : Environment σ) (c : Client) (request : TokenRequest) (s : σ)
    (errand : Errand) : Played σ (Except Failure Token) :=
  (errand.flow c request).run.run env s

end Errand

/-- A discovery sends a request for metadata, and nothing else. -/
theorem Client.eq_metadataRequest_of_utters {c : Client} {server : Url} {turns : List Turn}
    {r : Except Failure Metadata} (h : (c.metadata server).Utters turns r)
    {sending : Request × Delivery} (hmem : sending ∈ sendings turns) :
    ∃ target, sending.1 = metadataRequest target := by
  obtain ⟨inner, rfl, hdiscovers⟩ := discovers_of_utters h
  rw [sendings_framed] at hmem
  exact hdiscovers.eq_metadataRequest hmem

theorem Sends.exists_eq_httpRequest {c : Client} {endpoint : Url} {choice : Option Binding.Choice}
    {request : TokenRequest} {nonce : Option String} {turns : List Turn}
    {sending : Request × Delivery}
    (h : Sends c endpoint choice request nonce turns (.ok sending)) :
    ∃ target proof, sending.1 = c.httpRequest target request proof := by
  cases h with
  | sent => exact ⟨_, _, rfl⟩

/-- A negotiation sends token requests, and nothing else. -/
theorem Entry.eq_httpRequest_of_utters {c : Client} {request : TokenRequest} (entry : Entry)
    {turns : List Turn} {r : Except Failure Token} (h : (entry.flow c request).Utters turns r)
    {sending : Request × Delivery} (hmem : sending ∈ sendings turns) :
    ∃ target current proof, sending.1 = c.httpRequest target current proof := by
  have hsends : ∃ choice current nonce front,
      Sends c entry.endpoint choice current nonce front (.ok sending) := by
    cases entry with
    | negotiate endpoint budget => exact ⟨_, Client.exists_sends_of_utters h hmem⟩
    | token metadata => exact ⟨_, Client.exists_sends_of_utters h hmem⟩
  obtain ⟨_, current, _, _, hsends⟩ := hsends
  obtain ⟨target, proof, hrequest⟩ := hsends.exists_eq_httpRequest
  exact ⟨target, current, proof, hrequest⟩

/-- An errand sends token requests, and before them perhaps a request for metadata. -/
theorem Errand.request_of_utters {c : Client} {request : TokenRequest} {errand : Errand}
    {turns : List Turn} {r : Except Failure Token} (h : (errand.flow c request).Utters turns r)
    {sending : Request × Delivery} (hmem : sending ∈ sendings turns) :
    (∃ target current proof, sending.1 = c.httpRequest target current proof) ∨
      ∃ server target, errand = .obtain server ∧ sending.1 = Client.metadataRequest target := by
  cases errand with
  | negotiate entry => exact .inl (entry.eq_httpRequest_of_utters h hmem)
  | obtain server =>
    rcases Flow.utters_bind_iff.mp h with
      ⟨_, hmetadata, -⟩ | ⟨metadata, first, rest, rfl, hmetadata, h⟩
    · obtain ⟨target, hrequest⟩ := Client.eq_metadataRequest_of_utters hmetadata hmem
      exact .inr ⟨server, target, rfl, hrequest⟩
    rw [sendings_append, List.mem_append] at hmem
    rcases hmem with hmem | hmem
    · obtain ⟨target, hrequest⟩ := Client.eq_metadataRequest_of_utters hmetadata hmem
      exact .inr ⟨server, target, rfl, hrequest⟩
    split at h
    · exact .inl ((Entry.token metadata).eq_httpRequest_of_utters h hmem)
    · obtain ⟨rfl, -⟩ := Flow.utters_throw_iff.mp h
      cases hmem

theorem Client.fieldValues_metadataRequest (target : Target) :
    fieldValues (metadataRequest target).headers "authorization" = [] := by
  have hname : lowerName "accept" ≠ lowerName "authorization" := by decide +kernel
  rw [metadataRequest]
  simpa [hname] using fieldValues_map_ofText ["application/json"] "accept" "authorization"

/-! ### Two runs -/

/-- The request without its fields of a name. -/
def Http.Request.withoutFields (name : String) (request : Request) : Request :=
  { request with
    headers := request.headers.filter fun field => lowerName field.name != lowerName name }

namespace Client
variable (c : Client)

/-- A client that shows no secret sends the same requests with any other. -/
theorem conceals_of_unshown (other : Option Secret)
    (h : c.config.clientAuth = .none ∨ c.clientId = none) : c.Conceals id other := by
  have hsame : (c.withSecret other).credentials = c.credentials := by
    have hother : (c.withSecret other).config.clientAuth = .none ∨
        (c.withSecret other).clientId = none ∨ (c.withSecret other).clientSecret = none :=
      h.imp_right .inl
    rw [credentials_of_otherwise _ hother, credentials_of_otherwise c (h.imp_right .inl)]
    rfl
  intro target request proof
  rw [httpRequest, httpRequest, hsame]
  rfl

/-- A client that shows its secret in the `Authorization` field sends the same requests with any
other secret but for that field. -/
theorem conceals_of_basic {id : String} {secret : Secret} (other : Secret)
    (hmethod : c.config.clientAuth = .basic) (hid : c.clientId = some id)
    (hsecret : c.clientSecret = some secret) :
    c.Conceals (Request.withoutFields "authorization") (some other) := by
  have hfields (values : List String) :
      (values.map (Header.ofText "authorization")).filter
        (fun field => lowerName field.name != lowerName "authorization") = [] := by
    simp [Header.ofText]
  intro target request proof
  have hother : (c.withSecret (some other)).credentials =
      { authorization := some (basicAuthorization id other) } :=
    credentials_of_basic hmethod hid rfl
  rw [httpRequest, httpRequest, hother, credentials_of_basic hmethod hid hsecret]
  simp only [Request.withoutFields, List.filter_append, hfields]
  rfl

end Client

theorem Errand.alike {c : Client} {f : Request → Request} {other : Option Secret}
    (h : c.Conceals f other) (request : TokenRequest) (errand : Errand) :
    Flow.Alike f (errand.flow (c.withSecret other) request) (errand.flow c request) := by
  rcases errand with (⟨endpoint, budget⟩ | metadata) | server
  · exact h.negotiation endpoint none "negotiate" budget request
  · exact h.token metadata request
  · exact h.obtainToken server request

/-- Each token request of each run shows the credentials of the client's method and no others, and
discovery shows none. A secret that the method does not show has no part in a run; and one that
stands in the `Authorization` field has a part in nothing else, as long as nothing that is answered
depends on that field. -/
theorem discloses_of_play {σ : Type} (env : Environment σ) (c : Client) (request : TokenRequest)
    (s : σ) (errand : Errand) :
    (∀ sending ∈ sendings (errand.play env c request s).trace,
      (sending.1.method = .post ∧ c.ShownIn sending.1) ∨
        (∃ server, errand = .obtain server) ∧ sending.1.method = .get ∧
          fieldValues sending.1.headers "authorization" = [] ∧ sending.1.body = []) ∧
    (c.config.clientAuth = .none ∨ c.clientId = none → ∀ other,
      errand.play env (c.withSecret other) request s = errand.play env c request s) ∧
    (∀ id secret other, c.config.clientAuth = .basic → c.clientId = some id →
      c.clientSecret = some secret → env.Overlooks (Request.withoutFields "authorization") →
        (errand.play env (c.withSecret (some other)) request s).redact
            (Request.withoutFields "authorization") =
          (errand.play env c request s).redact (Request.withoutFields "authorization")) := by
  refine ⟨fun sending hmem => ?_, fun h other => ?_,
    fun id secret other hmethod hid hsecret henv => ?_⟩
  · have hutters := utters_run env (errand.flow c request).run s
    rcases Errand.request_of_utters hutters hmem with
      ⟨target, current, proof, hrequest⟩ | ⟨server, target, hserver, hrequest⟩
    · rw [hrequest]
      exact .inl ⟨rfl, c.shownIn_httpRequest target current proof⟩
    · rw [hrequest]
      exact .inr ⟨⟨server, hserver⟩, rfl, Client.fieldValues_metadataRequest target, rfl⟩
  · have hall : env.Overlooks id := fun _ _ => rfl
    have hplays := (Errand.alike (c.conceals_of_unshown other h) request errand).run hall s
    rwa [Played.redact_id, Played.redact_id] at hplays
  · exact (Errand.alike (c.conceals_of_basic other hmethod hid hsecret) request errand).run henv s

/-- Two requests that show a secret, which is read in their fields, and a client that has one but
shows none. -/
theorem discloses_of_sample_run :
    let c : Client := { clientId := some "app", clientSecret := some ⟨"secret"⟩ }
    let silent : Client := { c with config := { clientAuth := .none } }
    let errand : Errand := .negotiate (.negotiate Sample.endpoint 1)
    let script := Sample.script [Sample.demand "second", Sample.grant]
    let request : TokenRequest := { ticket := "first" }
    let p := errand.play Script.environment c request script
    (sendings p.trace).length = 2 ∧
      ReadAsBasic "Basic YXBwOnNlY3JldA==" "app" ⟨"secret"⟩ ∧
      (∀ sending ∈ sendings p.trace,
        ShowsCredentials sending.1 ["Basic YXBwOnNlY3JldA=="] []) ∧
      (errand.play Script.environment (c.withSecret (some ⟨"other"⟩)) request script).redact
          (Request.withoutFields "authorization") =
        p.redact (Request.withoutFields "authorization") ∧
      errand.play Script.environment (silent.withSecret none) request script =
        errand.play Script.environment silent request script := by
  intro c silent errand script request p
  obtain ⟨hshown, -, hbasic⟩ := discloses_of_play Script.environment c request script errand
  obtain ⟨-, hsilent, -⟩ := discloses_of_play Script.environment silent request script errand
  have hvalue : basicAuthorization "app" ⟨"secret"⟩ = "Basic YXBwOnNlY3JldA==" := by decide +kernel
  refine ⟨by decide +kernel, hvalue ▸ readAsBasic_basicAuthorization _ _, fun sending hmem => ?_,
    hbasic "app" ⟨"secret"⟩ ⟨"other"⟩ rfl rfl rfl fun _ _ => rfl, hsilent (.inl rfl) none⟩
  rcases hshown sending hmem with ⟨-, h⟩ | ⟨⟨server, hserver⟩, -⟩
  · exact hvalue ▸ (h.basic "app" ⟨"secret"⟩ rfl rfl rfl).2
  · exact absurd hserver (by simp [errand])

end TicketGrant
