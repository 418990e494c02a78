import TicketGrant.Proofs.LegalFields
import TicketGrant.Proofs.Settlement
import TicketGrant.Proofs.Trace
import TicketGrant.Script

/-!
# Courses of negotiations

What can happen when a client negotiates, from one request on its way to a whole course of rounds.
Every flow of the client has its relation: its turns, and what comes of them. `course_of_utters`
says that nothing else happens, whatever the answers are; laws about whole negotiations are
inductions over `Course`.
-/
namespace TicketGrant

open Http Dialogue

/-- What a proof for a request to an endpoint is asked to say. -/
def Binding.Choice.asked (choice : Choice) (endpoint : Url) (nonce : Option String) :
    ProofRequest :=
  { method := Method.post.name, uri := endpoint, algorithm := choice.algorithm, nonce }

/-- The turns in which a request gets its proof, if it is bound. -/
inductive Proves (endpoint : Url) :
    Option Binding.Choice → Option String → List Turn → Option String → Prop
  | unbound {nonce} : Proves endpoint none nonce [] none
  | bound {choice : Binding.Choice} {nonce bytes now text} :
      choice.signer.prove (choice.asked endpoint nonce) bytes now.unixSeconds = .ok text →
      Proves endpoint (some choice) nonce [.drew bytes, .told now] (some text)

/-- The turns of one request up to its delivery, or to the failure to send it. -/
inductive Sends (c : Client) (endpoint : Url) (choice : Option Binding.Choice)
    (request : TokenRequest) (nonce : Option String) :
    List Turn → Except Failure (Request × Delivery) → Prop
  | unsigned {used : Binding.Choice} {bytes now fault} :
      choice = some used →
      used.signer.prove (used.asked endpoint nonce) bytes now.unixSeconds = .error fault →
      Sends c endpoint choice request nonce [.drew bytes, .told now] (.error (.signing fault))
  | unbuilt {turns proof fault} :
      Proves endpoint choice nonce turns proof → Target.ofUrl endpoint = .error fault →
      Sends c endpoint choice request nonce turns (.error (.setup (.request fault)))
  | sent {turns proof target delivery} :
      Proves endpoint choice nonce turns proof → Target.ofUrl endpoint = .ok target →
      Sends c endpoint choice request nonce
        (turns ++ [.sent (c.httpRequest target request proof) delivery])
        (.ok (c.httpRequest target request proof, delivery))

/-- What is said after a delivery, and what a request comes to with it. -/
inductive Delivered : Delivery → List Turn → Except Failure Response → Prop
  | answered {actions response} : Delivered ⟨actions, .ok response⟩ [] (.ok response)
  | undelivered {actions fault failure} :
      Delivered ⟨actions, .error fault⟩ [.explained (Flow.held actions) fault failure]
        (.error (Client.undelivered (failure, Flow.held actions)))

/-- A delivery demands a nonce for the proof of a bound request. -/
structure Client.DemandsNonce (c : Client) (choice : Option Binding.Choice) (delivery : Delivery)
    (used : Binding.Choice) (nonce : String) : Prop where
  choice : choice = some used
  answer : ∃ response, delivery.outcome = .ok response ∧ c.demandedNonce? response = some nonce

/-- The turns of one exchange up to its last delivery, or to the failure to send a request. -/
inductive Exchanges (c : Client) (endpoint : Url) (choice : Option Binding.Choice)
    (request : TokenRequest) : List Turn → Except Failure Delivery → Prop
  | unsent {turns failure} :
      Sends c endpoint choice request none turns (.error failure) →
      Exchanges c endpoint choice request turns (.error failure)
  | once {turns sending} :
      Sends c endpoint choice request none turns (.ok sending) →
      (∀ used nonce, ¬ c.DemandsNonce choice sending.2 used nonce) →
      Exchanges c endpoint choice request turns (.ok sending.2)
  | again {first sending used nonce second outcome} :
      Sends c endpoint choice request none first (.ok sending) →
      c.DemandsNonce choice sending.2 used nonce →
      Sends c endpoint choice request (some nonce) second outcome →
      Exchanges c endpoint choice request
        (first ++ .observed (.resend used.algorithm) :: .observed (.nonceRetry used.algorithm) ::
          second)
        (outcome.map Prod.snd)

/-- The turns of one round, with some of the budget remaining, and how it ends. -/
inductive Round (c : Client) (endpoint : Url) (choice : Option Binding.Choice) (budget : Nat)
    (remaining : Nat) (request : TokenRequest) : List Turn → Ending → Prop
  | unsent {turns failure} :
      Exchanges c endpoint choice request turns (.error failure) →
      Round c endpoint choice budget remaining request turns (.ended (.error failure))
  | settled {before delivery after ending} :
      Exchanges c endpoint choice request before (.ok delivery) →
      Settles c budget remaining delivery after ending →
      Round c endpoint choice budget remaining request (before ++ after) ending

/-- The turns of a negotiation, with some of the budget remaining, and its result. -/
inductive Course (c : Client) (endpoint : Url) (choice : Option Binding.Choice) (budget : Nat) :
    Nat → TokenRequest → List Turn → Except Failure Token → Prop
  | last {remaining request turns result} :
      Round c endpoint choice budget remaining request turns (.ended result) →
      Course c endpoint choice budget remaining request turns result
  | more {left request first challenge claim rest result} :
      Round c endpoint choice budget (left + 1) request first (.met challenge claim) →
      Course c endpoint choice budget left (request.nextRound challenge.ticket claim) rest result →
      Course c endpoint choice budget (left + 1) request (first ++ rest) result

namespace Client
variable {c : Client} {endpoint : Url} {choice : Option Binding.Choice} {request : TokenRequest}
  {nonce : Option String} {turns : List Turn}

theorem utters_proof {r : Except Failure (Option String)}
    (h : (proof endpoint choice nonce).Utters turns r) :
    (∃ proof, Proves endpoint choice nonce turns proof ∧ r = .ok proof) ∨
      ∃ used bytes now fault, choice = some used ∧ turns = [.drew bytes, .told now] ∧
        used.signer.prove (used.asked endpoint nonce) bytes now.unixSeconds = .error fault ∧
        r = .error (.signing fault) := by
  cases choice with
  | none =>
    obtain ⟨rfl, rfl⟩ := Flow.utters_pure_iff.mp h
    exact .inl ⟨none, .unbound, rfl⟩
  | some used =>
    simp only [proof, Flow.utters_draw_bind_iff, Flow.utters_now_bind_iff,
      Flow.utters_ofExcept_bind_iff] at h
    obtain ⟨bytes, _, rfl, now, _, rfl, ⟨fault, hfault, rfl, rfl⟩ | ⟨text, htext, rfl, rfl⟩⟩ := h
    · exact .inr ⟨used, bytes, now, fault, rfl, rfl, hfault, rfl⟩
    · exact .inl ⟨some text, .bound htext, rfl⟩

/-- With any proof that a client makes, its request can be built. -/
theorem checked_of_proves {proof : Option String} (h : Proves endpoint choice nonce turns proof)
    (target : Target) :
    (c.httpRequest target request proof).checked = .ok (c.httpRequest target request proof) := by
  refine c.checked_httpRequest target request fun text htext => ?_
  cases h with
  | unbound => cases htext
  | bound hprove =>
    cases htext
    exact Binding.isVisible_of_prove hprove

theorem sends_of_utters {r : Except Failure Response}
    (h : (c.sendOnce endpoint choice request nonce).Utters turns r) :
    (∃ failure, Sends c endpoint choice request nonce turns (.error failure) ∧
        r = .error failure) ∨
      ∃ sending before after, turns = before ++ after ∧
        Sends c endpoint choice request nonce before (.ok sending) ∧
        Delivered sending.2 after r := by
  rw [sendOnce, Flow.utters_bind_iff] at h
  rcases h with ⟨failure, h, rfl⟩ | ⟨text, first, rest, rfl, h, hrest⟩
  · rcases utters_proof h with ⟨_, _, hr⟩ | ⟨used, bytes, now, fault, hused, rfl, hfault, hr⟩
    · cases hr
    · cases hr; exact .inl ⟨_, .unsigned hused hfault, rfl⟩
  rcases utters_proof h with ⟨text, hproof, hr⟩ | ⟨_, _, _, _, _, _, _, hr⟩
  · cases hr
    rw [Flow.utters_ofExcept_bind_iff] at hrest
    rcases hrest with ⟨fault, hfault, rfl, rfl⟩ | ⟨target, htarget, hrest⟩
    · exact .inl ⟨_, by simpa using .unbuilt hproof hfault, rfl⟩
    rw [checked_of_proves hproof, Flow.utters_ofExcept_bind_iff] at hrest
    rcases hrest with ⟨_, hfault, -⟩ | ⟨built, hbuilt, hrest⟩
    · cases hfault
    cases hbuilt
    rw [Flow.utters_lift_bind_iff] at hrest
    obtain ⟨answer, turns, last, rfl, hsend, hlast⟩ := hrest
    obtain ⟨rfl, rfl⟩ := Flow.utters_ofExcept_iff.mp hlast
    rcases Flow.utters_send_iff.mp hsend with ⟨actions, response, rfl, rfl⟩ |
      ⟨actions, fault, failure, rfl, rfl⟩
    · exact .inr ⟨(_, ⟨actions, .ok response⟩), _, [], by simp, .sent hproof htarget, .answered⟩
    · exact .inr ⟨(_, ⟨actions, .error fault⟩), _, [.explained (Flow.held actions) fault failure],
        by simp, .sent hproof htarget, .undelivered⟩
  · cases hr

theorem exchanges_of_utters {r : Except Failure Response}
    (h : (c.exchange endpoint choice request).Utters turns r) :
    (∃ failure, Exchanges c endpoint choice request turns (.error failure) ∧
        r = .error failure) ∨
      ∃ delivery before after, turns = before ++ after ∧
        Exchanges c endpoint choice request before (.ok delivery) ∧
        Delivered delivery after r := by
  rw [exchange, Flow.utters_bind_iff] at h
  rcases h with ⟨failure, h, rfl⟩ | ⟨response, first, rest, rfl, h, hrest⟩
  · rcases sends_of_utters h with ⟨_, hsends, hr⟩ | ⟨sending, before, after, rfl, hsends, hr⟩
    · cases hr; exact .inl ⟨_, .unsent hsends, rfl⟩
    · -- a fault demands no nonce
      have hnone : ∀ used nonce, ¬ c.DemandsNonce choice sending.2 used nonce := by
        rintro used nonce ⟨-, response, hresponse, -⟩
        obtain ⟨q, delivery⟩ := sending
        cases hr; cases hresponse
      exact .inr ⟨sending.2, before, after, rfl, .once hsends hnone, hr⟩
  rcases sends_of_utters h with ⟨_, _, hr⟩ | ⟨sending, before, after, rfl, hsends, hr⟩
  · cases hr
  obtain ⟨q, delivery⟩ := sending
  cases hr with
  | @answered actions response =>
    rw [List.append_nil]
    split at hrest
    · rename_i used nonce hdemanded
      simp only [Flow.utters_observe_bind_iff] at hrest
      obtain ⟨_, rfl, second, rfl, hsecond⟩ := hrest
      have hdemands : c.DemandsNonce (some used) ⟨actions, .ok response⟩ used nonce :=
        ⟨rfl, response, rfl, hdemanded⟩
      rcases sends_of_utters hsecond with
        ⟨failure, hagain, rfl⟩ | ⟨sending, before', after, rfl, hagain, hr⟩
      · exact .inl ⟨failure, .again hsends hdemands hagain, rfl⟩
      · exact .inr ⟨sending.2, _, after, by simp, .again hsends hdemands hagain, hr⟩
    · rename_i hneither
      obtain ⟨rfl, rfl⟩ := Flow.utters_pure_iff.mp hrest
      refine .inr ⟨_, before, [], by simp, .once hsends ?_, .answered⟩
      rintro used nonce ⟨rfl, _, hresponse, hdemanded⟩
      cases hresponse
      exact hneither used nonce rfl hdemanded

variable {budget remaining : Nat} {r : Except Failure Token}

/-- The first round of a negotiation; `next` is the rest of it. -/
theorem round_of_utters {next : Nat → TokenRequest → Flow Token}
    (h : Flow.Utters (c.exchange endpoint choice request >>= fun response =>
      c.settle budget request next response remaining) turns r) :
    Round c endpoint choice budget remaining request turns (.ended r) ∨
      ∃ left challenge claim first rest, remaining = left + 1 ∧ turns = first ++ rest ∧
        Round c endpoint choice budget remaining request first (.met challenge claim) ∧
        (next left (request.nextRound challenge.ticket claim)).Utters rest r := by
  rw [Flow.utters_bind_iff] at h
  rcases h with ⟨failure, h, rfl⟩ | ⟨response, first, rest, rfl, h, hrest⟩
  · rcases exchanges_of_utters h with ⟨_, hx, hr⟩ | ⟨delivery, before, after, rfl, hx, hr⟩
    · cases hr; exact .inl (.unsent hx)
    · cases hr; exact .inl (.settled hx .undelivered)
  · rcases exchanges_of_utters h with ⟨_, _, hr⟩ | ⟨delivery, before, after, rfl, hx, hr⟩
    · cases hr
    · cases hr
      rw [List.append_nil]
      rcases settles_of_utters hrest with
        hended | ⟨left, challenge, claim, first, rest, rfl, rfl, hmet, hnext⟩
      · exact .inl (.settled hx hended)
      · exact .inr ⟨left, challenge, claim, before ++ first, rest, rfl, by simp,
          .settled hx hmet, hnext⟩

/-- Whatever the answers are, a negotiation is a course of rounds. -/
theorem course_of_utters
    (h : (c.rounds endpoint choice budget remaining request).Utters turns r) :
    Course c endpoint choice budget remaining request turns r := by
  induction remaining generalizing request turns with
  | zero =>
    rw [rounds_eq] at h
    rcases round_of_utters h with hlast | ⟨_, _, _, _, _, hzero, _⟩
    · exact .last hlast
    · cases hzero
  | succ left ih =>
    rw [rounds_eq] at h
    rcases round_of_utters h with
      hlast | ⟨_, challenge, claim, first, rest, hleft, rfl, hmore, hrest⟩
    · exact .last hlast
    · cases hleft
      exact .more hmore (ih hrest)

end Client

/-! ### Whole negotiations -/

/-- What a client can be asked to negotiate. -/
inductive Entry where
  /-- At an endpoint, with a budget. -/
  | negotiate (endpoint : Url) (budget : UInt32)
  /-- At the endpoint of a server's metadata, with the budget of the configuration. -/
  | token (metadata : Metadata)

namespace Entry

/-- Where the token requests go. -/
def endpoint : Entry → Url
  | .negotiate endpoint _ => endpoint
  | .token metadata => metadata.tokenEndpoint

/-- How the token requests are bound. -/
def choice? (c : Client) : Entry → Option Binding.Choice
  | .negotiate .. => none
  | .token metadata => c.choice? metadata

/-- How many demands may be met. -/
def budget (c : Client) : Entry → Nat
  | .negotiate _ budget => budget.toNat
  | .token _ => c.config.maxDepth.toNat

/-- The negotiation. -/
def flow (c : Client) (request : TokenRequest) : Entry → Flow Token
  | .negotiate endpoint budget => c.negotiate endpoint request budget
  | .token metadata => c.token metadata request

/-- A run of the negotiation. -/
def play {σ : Type} (env : Environment σ) (c : Client) (request : TokenRequest) (s : σ)
    (entry : Entry) : Played σ (Except Failure Token) :=
  (entry.flow c request).run.run env s

end Entry

/-- A negotiation under a configuration that is at fault says nothing; any other is a course. -/
theorem Client.negotiation_of_utters {c : Client} {stage : String} {endpoint : Url}
    {choice : Option Binding.Choice} {budget : UInt32} {request : TokenRequest}
    {turns : List Turn} {r : Except Failure Token}
    (h : (c.negotiation stage endpoint choice budget request).Utters turns r) :
    ∃ inner, turns = Trace.framed .negotiation stage inner r ∧
      ((∃ fault, c.config.fault? = some fault ∧ inner = [] ∧ r = .error (.setup (.config fault))) ∨
        c.config.fault? = none ∧
          Course c endpoint choice budget.toNat budget.toNat request inner r) := by
  rw [negotiation, Flow.utters_observed_iff] at h
  obtain ⟨inner, rfl, h⟩ := h
  refine ⟨inner, rfl, ?_⟩
  cases hfault : c.config.fault? with
  | some fault =>
    rw [hfault] at h
    obtain ⟨rfl, rfl⟩ := Flow.utters_throw_iff.mp h
    exact .inl ⟨fault, rfl, rfl, rfl⟩
  | none =>
    rw [hfault] at h
    exact .inr ⟨rfl, course_of_utters h⟩

/-- What is said in a run of an entry. -/
theorem Entry.course_of_play {σ : Type} (env : Environment σ) (c : Client)
    (request : TokenRequest) (s : σ) (entry : Entry) :
    ∃ stage inner, (entry.play env c request s).trace =
        Trace.framed .negotiation stage inner (entry.play env c request s).result ∧
      ((∃ fault, inner = [] ∧
          (entry.play env c request s).result = .error (.setup (.config fault))) ∨
        Course c entry.endpoint (entry.choice? c) (entry.budget c) (entry.budget c) request inner
          (entry.play env c request s).result) := by
  have hutters := utters_run env (entry.flow c request).run s
  have hnegotiation : ∃ stage budget, entry.budget c = UInt32.toNat budget ∧
      entry.flow c request =
        c.negotiation stage entry.endpoint (entry.choice? c) budget request := by
    cases entry with
    | negotiate endpoint budget => exact ⟨_, budget, rfl, rfl⟩
    | token metadata => exact ⟨_, c.config.maxDepth, rfl, rfl⟩
  obtain ⟨stage, budget, hbudget, hflow⟩ := hnegotiation
  rw [hbudget]
  rw [hflow] at hutters
  obtain ⟨inner, hturns, h⟩ := Client.negotiation_of_utters hutters
  rw [← hflow] at hturns h
  refine ⟨stage, inner, hturns, ?_⟩
  rcases h with ⟨fault, -, hinner, hresult⟩ | ⟨-, hcourse⟩
  · exact .inl ⟨fault, hinner, hresult⟩
  · exact .inr hcourse

/-! ### A short negotiation -/

namespace Sample

/-- A token endpoint. -/
def endpoint : Url where
  scheme := "https"
  authority := some ⟨"", "", .name "as.example", none⟩
  guarded := false
  path := .rooted ["token"]
  query := none
  fragment := none

/-- The endpoint as a target. -/
def target : Target := ⟨"https://as.example/token"⟩

/-- A demand for claims, with a ticket for the next round. -/
def demand (ticket : String) : Delivery :=
  ⟨[], .ok ⟨⟨403⟩, [], Utf8.encode
    ("\x7b\"error\":\"need_info\",\"ticket\":\"" ++ ticket ++ "\"\x7d")⟩⟩

/-- A token. -/
def grant : Delivery :=
  ⟨[], .ok ⟨⟨200⟩, [], Utf8.encode
    "\x7b\"access_token\":\"rpt\",\"token_type\":\"Bearer\"\x7d"⟩⟩

/-- Claims for as many demands as there are deliveries. -/
def script (deliveries : List Delivery) : Script where
  deliveries
  resolutions := deliveries.map fun _ => .claim (.idToken ⟨"claim"⟩)
  clock := .epoch

end Sample
end TicketGrant
