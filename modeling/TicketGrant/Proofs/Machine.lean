import TicketGrant.Proofs.Followed

/-!
# The reference machine

A machine over the current request and the remaining budget: it sends the request without a proof,
and the delivery settles the round. Either that is the end, or the machine goes on with the new
ticket and claim and one round less. `negotiate_run_iff` says that a client's negotiation at a bare
endpoint is this machine, turn by turn and in both directions, against every environment.
-/
namespace TicketGrant

open Http Dialogue

/-- The turns of the machine and its result, from a remaining budget and a current request. -/
inductive Machine (c : Client) (target : Target) (budget : Nat) :
    Nat → TokenRequest → List Turn → Except Failure Token → Prop
  /-- The delivery ends the negotiation. -/
  | last {remaining request delivery after result} :
      Settles c budget remaining delivery after (.ended result) →
      Machine c target budget remaining request
        (.sent (c.httpRequest target request none) delivery :: after) result
  /-- The delivery demands claims, and one is found. -/
  | more {left request delivery after challenge claim rest result} :
      Settles c budget (left + 1) delivery after (.met challenge claim) →
      Machine c target budget left
        { request with ticket := challenge.ticket, claimToken := some claim } rest result →
      Machine c target budget (left + 1) request
        (.sent (c.httpRequest target request none) delivery :: after ++ rest) result

variable {c : Client} {endpoint : Url} {target : Target} {budget remaining : Nat}
  {request : TokenRequest} {turns : List Turn} {r : Except Failure Token}

/-! ### A course without a proof is a run of the machine -/

/-- A request to an endpoint that can be a target is sent if it needs no proof. -/
theorem sends_unbound {nonce : Option String} {outcome : Except Failure (Request × Delivery)}
    (ht : Target.ofUrl endpoint = .ok target)
    (h : Sends c endpoint none request nonce turns outcome) :
    ∃ delivery, turns = [.sent (c.httpRequest target request none) delivery] ∧
      outcome = .ok (c.httpRequest target request none, delivery) := by
  cases h with
  | unsigned hused _ => cases hused
  | unbuilt _ hfault => rw [ht] at hfault; cases hfault
  | sent hproof hok =>
    rw [ht] at hok
    cases hok
    cases hproof
    exact ⟨_, rfl, rfl⟩

/-- Such a request is sent once. -/
theorem exchanges_unbound {outcome : Except Failure Delivery}
    (ht : Target.ofUrl endpoint = .ok target)
    (h : Exchanges c endpoint none request turns outcome) :
    ∃ delivery, turns = [.sent (c.httpRequest target request none) delivery] ∧
      outcome = .ok delivery := by
  cases h with
  | unsent h => obtain ⟨_, _, houtcome⟩ := sends_unbound ht h; cases houtcome
  | once h _ =>
    obtain ⟨delivery, rfl, houtcome⟩ := sends_unbound ht h
    cases houtcome
    exact ⟨delivery, rfl, rfl⟩
  | again _ hdemands _ => exact absurd hdemands.choice (by simp)

theorem machine_of_course (ht : Target.ofUrl endpoint = .ok target)
    (h : Course c endpoint none budget remaining request turns r) :
    Machine c target budget remaining request turns r := by
  induction h with
  | last hround =>
    cases hround with
    | unsent hx => obtain ⟨_, _, houtcome⟩ := exchanges_unbound ht hx; cases houtcome
    | settled hx hsettles =>
      obtain ⟨delivery, rfl, houtcome⟩ := exchanges_unbound ht hx
      cases houtcome
      exact .last hsettles
  | more hround _ ih =>
    cases hround with
    | settled hx hsettles =>
      obtain ⟨delivery, rfl, houtcome⟩ := exchanges_unbound ht hx
      cases houtcome
      exact .more hsettles ih

/-! ### A run of the machine is a course -/

/-- What needs no proof is sent once, whatever the delivery is. -/
theorem exchanges_of_delivery (ht : Target.ofUrl endpoint = .ok target) (delivery : Delivery) :
    Exchanges c endpoint none request [.sent (c.httpRequest target request none) delivery]
      (.ok delivery) :=
  .once (.sent .unbound ht) fun _ _ hdemands => nomatch hdemands.choice

theorem course_of_machine (ht : Target.ofUrl endpoint = .ok target)
    (h : Machine c target budget remaining request turns r) :
    Course c endpoint none budget remaining request turns r := by
  induction h with
  | last hsettles => exact .last (.settled (exchanges_of_delivery ht _) hsettles)
  | more hsettles _ ih => exact .more (.settled (exchanges_of_delivery ht _) hsettles) ih

theorem course_unbound_iff (ht : Target.ofUrl endpoint = .ok target) :
    Course c endpoint none budget remaining request turns r ↔
      Machine c target budget remaining request turns r :=
  ⟨machine_of_course ht, course_of_machine ht⟩

/-! ### The negotiation is the machine -/

/-- A negotiation under a sound configuration, at an endpoint that requests can be sent to, is the
machine: against every environment their turns, results and final states are the same. -/
theorem negotiate_run_iff {σ : Type} (env : Environment σ) (c : Client) (endpoint : Url)
    (target : Target) (request : TokenRequest) (budget : UInt32) (s : σ)
    (p : Played σ (Except Failure Token)) (hc : c.config.fault? = none)
    (ht : Target.ofUrl endpoint = .ok target) :
    (c.negotiate endpoint request budget).run.run env s = p ↔
      ∃ turns, p.trace = Trace.framed .negotiation "negotiate" turns p.result ∧
        Machine c target budget.toNat budget.toNat request turns p.result ∧
        env.Answers turns s p.state := by
  rw [Client.negotiate, Client.negotiation_run_iff hc]
  simp only [course_unbound_iff ht]

/-- A demand that is met, and then a token: the machine makes both rounds. -/
theorem negotiate_run_two_rounds :
    let p := (({} : Client).negotiate Sample.endpoint { ticket := "first" } 1).run.run
      Script.environment (Sample.script [Sample.demand "second", Sample.grant])
    ({} : Client).config.fault? = none ∧ Target.ofUrl Sample.endpoint = .ok Sample.target ∧
      p.result.toOption.map (·.accessToken.expose) = some "rpt" ∧
      ∃ turns, p.trace = Trace.framed .negotiation "negotiate" turns p.result ∧
        Machine {} Sample.target 1 1 { ticket := "first" } turns p.result ∧
        Script.environment.Answers turns
          (Sample.script [Sample.demand "second", Sample.grant]) p.state :=
  ⟨by decide +kernel, by rfl, by decide +kernel,
    (negotiate_run_iff _ _ _ _ _ _ _ _ (by decide +kernel) (by rfl)).mp rfl⟩

end TicketGrant
