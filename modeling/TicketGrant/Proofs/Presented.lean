import TicketGrant.Proofs.FormBody
import TicketGrant.Proofs.RoundTrace

/-!
# What a round presents

Tickets and claims are handed on from round to round: the requests of a round present the ticket of
the demand that ended the round before, and the claim that met it. Everything else in a request but
its proof stays as it was in the first one. `presents_of_round` says so of every round of every run,
and that the resolver is shown the demand in the last response, and no other.
-/
namespace TicketGrant

open Http Dialogue Trace

/-- Whether a header field is a proof. -/
def isProof (field : Header) : Bool := field.name == "dpop"

/-- A request presents a ticket and a claim at an endpoint, and all that is kept. Only its proof is
left open. -/
structure Client.Presents (c : Client) (endpoint : Url) (kept : TokenRequest) (ticket : String)
    (claim : Option ClaimToken) (sent : Request) : Prop where
  method : sent.method = .post
  target : Target.ofUrl endpoint = .ok sent.target
  headers : sent.headers.filter (!isProof ·) =
    [.ofText "content-type" "application/x-www-form-urlencoded",
      .ofText "accept" "application/json"] ++
    c.credentials.authorization.toList.map (.ofText "authorization")
  body : sent.body = Utf8.encode (Form.encode
    (kept.presented c.config.scopeDelimiter ticket claim ++ c.credentials.entries))
  /-- A server reads the same in it. -/
  read : Form.decode sent.body =
    kept.presented c.config.scopeDelimiter ticket claim ++ c.credentials.entries

/-- The ticket and the claim that are handed on to a round: the first has those of the initial
request, and any other those of the demand in the last response before it and of its answer. -/
inductive HandsOn (c : Client) (request : TokenRequest) (rounds : List (List Turn)) :
    Nat → String → Option ClaimToken → Prop
  | first : HandsOn c request rounds 0 request.ticket request.claimToken
  | next {n round response challenge claim} :
      rounds[n]? = some round → lastResponse? round = some response →
      c.Demands response challenge → challenge.ticket ≠ "" →
      meetingOf? round = some (challenge, claim) →
      HandsOn c request rounds (n + 1) challenge.ticket (some claim)

/-- What the nth round of a run hands over to the server and to the resolver. -/
structure HandsOver (c : Client) (endpoint : Url) (request : TokenRequest) (budget : Nat)
    (rounds : List (List Turn)) (result : Except Failure Token) (n : Nat) (round : List Turn) :
    Prop where
  /-- Each request presents what is handed on to the round. -/
  presented : ∃ ticket claim, HandsOn c request rounds n ticket claim ∧
    ∀ sending ∈ sendings round, c.Presents endpoint request ticket claim sending.1
  /-- A round without a request is one that could not begin. -/
  unsent : sendings round = [] →
    (∃ fault, result = .error (.setup fault)) ∨ ∃ fault, result = .error (.signing fault)
  /-- The resolver is shown the demand in the last response, with the status of that response. -/
  shown : ∀ challenge resolution, (challenge, resolution) ∈ resolutions round →
    ∃ response, lastResponse? round = some response ∧ c.Demands response challenge ∧
      challenge.status = some response.status
  /-- Within the budget it is shown every such demand. -/
  calls : ∀ response challenge, n < budget → lastResponse? round = some response →
    c.Demands response challenge → ∃ resolution, resolutions round = [(challenge, resolution)]

variable {c : Client} {endpoint : Url} {choice : Option Binding.Choice} {budget remaining : Nat}
  {current : TokenRequest} {turns : List Turn}

/-! ### One request -/

/-- A proof stands in a field of its own. -/
theorem Client.filter_not_isProof (c : Client) (target : Target) (request : TokenRequest)
    (proof : Option String) :
    (c.httpRequest target request proof).headers.filter (!isProof ·) =
      [.ofText "content-type" "application/x-www-form-urlencoded",
        .ofText "accept" "application/json"] ++
      c.credentials.authorization.toList.map (.ofText "authorization") := by
  have hauthorization :
      (c.credentials.authorization.toList.map (Header.ofText "authorization")).filter
          (!isProof ·) =
        c.credentials.authorization.toList.map (.ofText "authorization") := by
    cases c.credentials.authorization <;> rfl
  have hproof : (proof.toList.map (Header.ofText "dpop")).filter (!isProof ·) = [] := by
    cases proof <;> rfl
  rw [httpRequest, List.filter_append, List.filter_append, hauthorization, hproof,
    List.append_nil]
  rfl

theorem Client.filter_isProof (c : Client) (target : Target) (request : TokenRequest)
    (proof : Option String) :
    (c.httpRequest target request proof).headers.filter isProof =
      proof.toList.map (.ofText "dpop") := by
  have hauthorization :
      (c.credentials.authorization.toList.map (Header.ofText "authorization")).filter isProof =
        [] := by
    cases c.credentials.authorization <;> rfl
  have hproof : (proof.toList.map (Header.ofText "dpop")).filter isProof =
      proof.toList.map (.ofText "dpop") := by
    cases proof <;> rfl
  rw [httpRequest, List.filter_append, List.filter_append, hauthorization, hproof]
  rfl

theorem Client.body_httpRequest (c : Client) (target : Target) (request : TokenRequest)
    (proof : Option String) :
    (c.httpRequest target request proof).body =
      Utf8.encode (request.formBody c.config.scopeDelimiter c.credentials.entries) := by
  rw [httpRequest]

theorem Client.presents_httpRequest {target : Target} (ht : Target.ofUrl endpoint = .ok target)
    {kept : TokenRequest} (hkept : current.presented = kept.presented) (proof : Option String) :
    c.Presents endpoint kept current.ticket current.claimToken
      (c.httpRequest target current proof) where
  method := rfl
  target := ht
  headers := c.filter_not_isProof target current proof
  body := by rw [body_httpRequest, TokenRequest.formBody, TokenRequest.entries_eq, hkept]
  read := by
    rw [body_httpRequest, TokenRequest.formBody, Form.decode_encode, TokenRequest.entries_eq,
      hkept]

/-! ### One round -/

/-- What is sent in a round presents the ticket and the claim of its request. -/
theorem Round.presents {ending : Ending} {kept : TokenRequest}
    (h : Round c endpoint choice budget remaining current turns ending)
    (hkept : current.presented = kept.presented) {sending : Request × Delivery}
    (hmem : sending ∈ sendings turns) :
    c.Presents endpoint kept current.ticket current.claimToken sending.1 := by
  obtain ⟨nonce, front, hsends⟩ := h.exists_sends hmem
  cases hsends with
  | sent _ ht => exact Client.presents_httpRequest ht hkept _

/-- A round sends something, or it could not begin. -/
theorem Round.fault_of_sendings_eq_nil {ending : Ending}
    (h : Round c endpoint choice budget remaining current turns ending)
    (hnone : sendings turns = []) :
    (∃ fault, ending = .ended (.error (.setup fault))) ∨
      ∃ fault, ending = .ended (.error (.signing fault)) := by
  cases h with
  | @unsent _ failure hx =>
    generalize houtcome : Except.error failure = outcome at hx
    cases hx with
    | unsent hfirst =>
      cases houtcome
      cases hfirst with
      | unsigned => exact .inr ⟨_, rfl⟩
      | unbuilt => exact .inl ⟨_, rfl⟩
    | once => cases houtcome
    | again hfirst =>
      rw [sendings_append, hfirst.sendings_eq] at hnone
      cases hnone
  | settled hx =>
    obtain ⟨sent, hlast⟩ := hx.getLast?_sendings
    rw [sendings_append, List.append_eq_nil_iff] at hnone
    rw [hnone.1] at hlast
    cases hlast

/-- With a budget the resolver is called for a demand in the last response. -/
theorem Round.exists_call {ending : Ending} {response : Response} {challenge : Challenge}
    (h : Round c endpoint choice budget remaining current turns ending) (hpos : remaining ≠ 0)
    (hlast : lastResponse? turns = some response) (hdemands : c.Demands response challenge) :
    ∃ resolution, resolutions turns = [(challenge, resolution)] := by
  cases h with
  | unsent hx => exact absurd hdemands.toNeedsInfo (hx.not_needsInfo hlast)
  | settled hx hsettles =>
    rw [lastResponse?_of_settled hx hsettles, Delivery.toOption_outcome_eq_some_iff] at hlast
    rw [resolutions_append, hx.resolutions_eq_nil]
    have hbody := hdemands.challenge
    rcases hsettles.of_needsInfo hlast hdemands.toNeedsInfo with
      ⟨hzero, -⟩ | ⟨-, hnone | ⟨found, resolution, hfound, rfl⟩⟩
    · exact absurd hzero hpos
    · rw [hnone] at hbody
      cases hbody
    · rw [hfound] at hbody
      cases hbody
      exact ⟨resolution, rfl⟩

/-! ### Rounds of a run -/

section Run
variable {σ : Type} (env : Environment σ) (c : Client) (request : TokenRequest) (s : σ)
  (entry : Entry)

/-- The request of a round has what is handed on to it, and keeps the rest. -/
theorem handsOn_of_current {n : Nat} {round : List Turn} {current : TokenRequest}
    (hround : (rounds (entry.play env c request s).trace)[n]? = some round)
    (hcurrent : request.current (rounds (entry.play env c request s).trace) n = some current) :
    HandsOn c request (rounds (entry.play env c request s).trace) n current.ticket
        current.claimToken ∧
      current.presented = request.presented := by
  cases n with
  | zero =>
    cases hcurrent
    exact ⟨.first, rfl⟩
  | succ n =>
    obtain ⟨hlength, -⟩ := List.getElem?_eq_some_iff.mp hround
    have hbefore := List.getElem?_eq_getElem (Nat.lt_of_succ_lt hlength)
    -- the round before did not end the run, so its demand was met
    rcases entry.round_of_play env c request s hbefore with
      ⟨-, -, hone, -⟩ | ⟨_, inner, ending, -, hinner, heq, -, hfollows⟩
    · omega
    cases hfollows with
    | last hlast => omega
    | @more before challenge claim hat hmeeting _ =>
      rw [hbefore] at hat
      cases hat
      obtain ⟨response, hresponse, hdemands⟩ := hinner.demands_of_met
      simp only [TokenRequest.current, hbefore, Option.bind_some, hmeeting, Option.map_some,
        Option.some.injEq] at hcurrent
      subst hcurrent
      rw [← lastResponse?_heard, ← heq] at hresponse
      exact ⟨.next hbefore hresponse hdemands (Challenge.of_ofBody? hdemands.challenge).2 hmeeting,
        rfl⟩

/-- In every round of every run, each request presents exactly what is handed on to that round, and
the resolver is shown exactly the demand in the last response. -/
theorem presents_of_round {n : Nat} {round : List Turn}
    (hround : (rounds (entry.play env c request s).trace)[n]? = some round) :
    HandsOver c entry.endpoint request (entry.budget c)
      (rounds (entry.play env c request s).trace) (entry.play env c request s).result n round := by
  rcases entry.round_of_play env c request s hround with
    ⟨rfl, rfl, -, fault, hfault⟩ | ⟨current, inner, ending, hcurrent, hinner, rfl, hle, hfollows⟩
  · exact {
      presented := ⟨_, _, .first, by simp [sendings]⟩
      unsent := fun _ => .inl ⟨_, hfault⟩
      shown := by simp [resolutions]
      calls := by simp [lastResponse?, sendings] }
  obtain ⟨hhanded, hkept⟩ := handsOn_of_current env c request s entry hround hcurrent
  constructor
  · refine ⟨_, _, hhanded, fun sending hmem => hinner.presents hkept ?_⟩
    rwa [sendings_heard] at hmem
  · intro hnone
    rw [sendings_heard] at hnone
    rcases hinner.fault_of_sendings_eq_nil hnone with ⟨fault, rfl⟩ | ⟨fault, rfl⟩
    · exact .inl ⟨fault, hfollows.result_eq⟩
    · exact .inr ⟨fault, hfollows.result_eq⟩
  · intro challenge resolution hcall
    rw [resolutions_heard] at hcall
    rw [lastResponse?_heard]
    rcases hinner.calls with ⟨hnone, -⟩ | ⟨response, _, _, hlast, hone, -, hdemands, -⟩
    · rw [hnone] at hcall
      cases hcall
    · rw [hone] at hcall
      cases List.mem_singleton.mp hcall
      exact ⟨response, hlast, hdemands, (Challenge.of_ofBody? hdemands.challenge).1⟩
  · intro response challenge hlt hlast hdemands
    rw [lastResponse?_heard] at hlast
    rw [resolutions_heard]
    exact hinner.exists_call (by omega) hlast hdemands

end Run

/-- The second round after a demand that is met: it presents the new ticket and the claim. -/
theorem presents_of_second_round :
    let p := (Entry.negotiate Sample.endpoint 1).play Script.environment {} { ticket := "first" }
      (Sample.script [Sample.demand "second", Sample.grant])
    ∃ round sending, (rounds p.trace)[1]? = some round ∧ sendings round = [sending] ∧
      HandsOver {} Sample.endpoint { ticket := "first" } 1 (rounds p.trace) p.result 1 round ∧
      Form.decode sending.1.body =
        [("grant_type", "urn:ietf:params:oauth:grant-type:uma-ticket"), ("ticket", "second"),
          ("claim_token", "claim"),
          ("claim_token_format", "http://openid.net/specs/openid-connect-core-1_0.html#IDToken")] := by
  intro p
  have hone : ((rounds p.trace)[1]?.map fun round => (sendings round).length) = some 1 := by
    decide +kernel
  have hmet : (((rounds p.trace)[0]?.bind meetingOf?).map fun met => (met.1.ticket, met.2)) =
      some ("second", .idToken ⟨"claim"⟩) := by
    decide +kernel
  obtain ⟨round, hround, hlength⟩ := Option.map_eq_some_iff.mp hone
  obtain ⟨sending, hsending⟩ := List.length_eq_one_iff.mp hlength
  have hover := presents_of_round Script.environment {} { ticket := "first" }
    (Sample.script [Sample.demand "second", Sample.grant]) (.negotiate Sample.endpoint 1) hround
  refine ⟨round, sending, hround, hsending, hover, ?_⟩
  obtain ⟨ticket, claim, hhanded, hpresents⟩ := hover.presented
  have hread := (hpresents sending (by simp [hsending])).read
  cases hhanded with
  | next hbefore _ _ _ hmeeting =>
    rw [hbefore, Option.bind_some, hmeeting, Option.map_some, Option.some.injEq,
      Prod.mk.injEq] at hmet
    obtain ⟨hticket, rfl⟩ := hmet
    rw [hticket] at hread
    exact hread

end TicketGrant
