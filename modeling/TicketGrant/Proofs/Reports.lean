import TicketGrant.Proofs.Counters
import TicketGrant.Proofs.Session

/-!
# Reports

How a flow is reported: it is opened with its span and one attempt, and closed with one outcome, its
own: a success, or a failure that is told and then counted. Nothing between these reports a flow,
because what is observed in a round is not about flows; so a call is reported by the flows that it
enters, and the counters of flows balance.
-/
namespace TicketGrant

open Http Dialogue Trace

/-! ### Reports of flows -/

/-- The observation is about a flow as a whole. -/
def Observation.isReport : Observation → Bool
  | .span .. | .flow .. | .failed .. => true
  | .challenge .. | .round | .resend _ | .nonceRetry _ => false

/-- Nothing in these turns reports a flow. -/
def Trace.Silent (turns : List Turn) : Prop := ∀ entry ∈ observations turns, entry.isReport = false

/-- A field of a record. -/
def Recorded.field? (name : String) : Recorded → Option FieldValue
  | .span _ _ fields | .event _ fields => fields.lookup name
  | .counter .. => none

/-- An event tells a flow's failure, with the status and the message of that. -/
structure Recorded.Tells (kind : FlowKind) (failure : Failure) (record : Recorded) : Prop where
  event : ∃ level fields, record = .event level fields
  flow : record.field? "flow" = some (.text kind.label)
  status : record.field? "status" = failure.status.map fun status => .number status.code
  error : record.field? "error" = some (.text failure.message)

/-- A flow is reported: there is one attempt before all else that it says, and one outcome, with
the failure if there is one, behind it. -/
inductive Reports (kind : FlowKind) : Option Failure → List Turn → Prop
  | succeeded {stage inner} :
      Silent inner →
      Reports kind none
        ([.observed (.span kind stage), .observed (.flow kind .attempt)] ++ inner ++
          [.observed (.flow kind .success)])
  | failed {stage inner event failure} :
      Silent inner → event.recorded.Tells kind failure →
      Reports kind (some failure)
        ([.observed (.span kind stage), .observed (.flow kind .attempt)] ++ inner ++
          [.observed event, .observed (.flow kind .failure)])

theorem Observation.tells_failed (kind : FlowKind) (failure : Failure) :
    (failed kind failure).recorded.Tells kind failure := by
  refine ⟨⟨_, _, rfl⟩, rfl, ?_, ?_⟩
  all_goals
    simp only [recorded, Recorded.field?]
    cases failure.status <;> rfl

theorem Trace.Silent.append {xs ys : List Turn} (hx : Silent xs) (hy : Silent ys) :
    Silent (xs ++ ys) := by
  intro entry hmem
  rw [observations_append, List.mem_append] at hmem
  rcases hmem with hmem | hmem
  · exact hx entry hmem
  · exact hy entry hmem

theorem Trace.silent_of_observations_eq_nil {turns : List Turn} (h : observations turns = []) :
    Silent turns := by
  intro entry hmem
  rw [h] at hmem
  cases hmem

theorem Reports.of_framed {α : Type} {inner : List Turn} (h : Silent inner) (kind : FlowKind)
    (stage : String) (result : Except Failure α) :
    Reports kind (failure? result) (framed kind stage inner result) := by
  cases result with
  | ok a => exact .succeeded h
  | error failure => exact .failed h (Observation.tells_failed kind failure)

/-! ### Counters of flows -/

namespace Counter
variable {kind kind' : FlowKind} {outcome : FlowOutcome}

/-- The attempts of each kind of flow are its successes and its failures. -/
def Balanced (trace : List Turn) : Prop :=
  ∀ kind, (flows kind .attempt).growth trace =
    (flows kind .success).growth trace + (flows kind .failure).growth trace

theorem raise_flow (kind kind' : FlowKind) (outcome outcome' : FlowOutcome) :
    (flows kind outcome).raise (Observation.flow kind' outcome').recorded =
      if kind' = kind ∧ outcome' = outcome then 1 else 0 := by
  cases kind <;> cases kind' <;> cases outcome <;> cases outcome' <;> decide

theorem flows_total_pos_iff {entries : List Observation} :
    0 < (flows kind outcome).total entries ↔ .flow kind outcome ∈ entries := by
  induction entries with
  | nil => simp [total]
  | cons entry rest ih =>
    have hraise : 0 < (flows kind outcome).raise entry.recorded ↔
        Observation.flow kind outcome = entry := by
      cases entry with
      | flow kind' outcome' =>
        rw [raise_flow]
        split
        · rename_i heq
          obtain ⟨rfl, rfl⟩ := heq
          exact iff_of_true Nat.zero_lt_one rfl
        · rename_i hne
          refine iff_of_false (Nat.lt_irrefl 0) ?_
          rintro ⟨⟩
          exact hne ⟨rfl, rfl⟩
      | _ =>
        refine iff_of_false (Nat.lt_irrefl 0) ?_
        rintro ⟨⟩
    rw [total, List.mem_cons, ← hraise, ← ih]
    omega

theorem flows_growth_of_silent {turns : List Turn} (h : Silent turns) :
    (flows kind outcome).growth turns = 0 := by
  refine Nat.eq_zero_of_not_pos fun hpos => ?_
  cases h _ (flows_total_pos_iff.mp hpos)

theorem Balanced.append {xs ys : List Turn} (hx : Balanced xs) (hy : Balanced ys) :
    Balanced (xs ++ ys) := by
  intro kind
  have hfirst := hx kind
  have hsecond := hy kind
  simp only [growth_append]
  omega

end Counter

namespace Reports
variable {kind kind' : FlowKind} {failed : Option Failure} {turns : List Turn}

/-- The counters of flows see one attempt and one outcome. -/
theorem growth_flows (h : Reports kind failed turns) (kind' : FlowKind) (outcome : FlowOutcome) :
    (Counter.flows kind' outcome).growth turns =
      if kind = kind' ∧
        (outcome = .attempt ∨ outcome = if failed.isSome then .failure else .success)
      then 1 else 0 := by
  have hopening (stage : String) :
      (Counter.flows kind' outcome).growth
          [.observed (.span kind stage), .observed (.flow kind .attempt)] =
        if kind = kind' ∧ FlowOutcome.attempt = outcome then 1 else 0 :=
    (Nat.zero_add _).trans (Counter.raise_flow kind' kind outcome .attempt)
  cases h with
  | succeeded hsilent =>
    have hclosing : (Counter.flows kind' outcome).growth [.observed (.flow kind .success)] =
        if kind = kind' ∧ FlowOutcome.success = outcome then 1 else 0 :=
      Counter.raise_flow kind' kind outcome .success
    rw [Counter.growth_append, Counter.growth_append, hopening, hclosing,
      Counter.flows_growth_of_silent hsilent]
    cases outcome <;> simp
  | @failed _ _ event _ hsilent htells =>
    obtain ⟨level, fields, hevent⟩ := htells.event
    have hclosing : (Counter.flows kind' outcome).growth
          [.observed event, .observed (.flow kind .failure)] =
        if kind = kind' ∧ FlowOutcome.failure = outcome then 1 else 0 := by
      -- what tells the failure is an event, and raises no counter
      change (Counter.flows kind' outcome).raise event.recorded + _ = _
      rw [hevent]
      exact (Nat.zero_add _).trans (Counter.raise_flow kind' kind outcome .failure)
    rw [Counter.growth_append, Counter.growth_append, hopening, hclosing,
      Counter.flows_growth_of_silent hsilent]
    cases outcome <;> simp

theorem balanced (h : Reports kind failed turns) : Counter.Balanced turns := by
  intro kind'
  rw [h.growth_flows, h.growth_flows, h.growth_flows]
  by_cases hkind : kind = kind' <;> cases failed <;> simp [hkind]

/-- Only flows of its kind are attempted. -/
theorem attempt_mem_iff (h : Reports kind failed turns) :
    Observation.flow kind' .attempt ∈ observations turns ↔ kind = kind' := by
  rw [← Counter.flows_total_pos_iff, ← Counter.growth, h.growth_flows]
  by_cases hkind : kind = kind' <;> simp [hkind]

end Reports

/-! ### The flows of a client -/

section Flows
variable {c : Client} {endpoint : Url} {choice : Option Binding.Choice} {request : TokenRequest}
  {turns after : List Turn} {budget remaining : Nat}

theorem Exchanges.silent {outcome : Except Failure Delivery}
    (h : Exchanges c endpoint choice request turns outcome) : Silent turns := by
  rcases h.observations_eq with hnone | ⟨algorithm, htwo⟩
  · exact silent_of_observations_eq_nil hnone
  · rw [Silent, htwo]
    simp [Observation.isReport]

theorem Settles.silent {delivery : Delivery} {ending : Ending}
    (h : Settles c budget remaining delivery after ending) : Silent after := by
  rcases h.observations_eq with ⟨hnone, -⟩ | ⟨challenge, resolution, rfl⟩
  · exact silent_of_observations_eq_nil hnone
  · have htwo : observations (asking remaining challenge resolution) =
        [.challenge remaining challenge.requiredClaims.length, .round] := rfl
    rw [Silent, htwo]
    simp [Observation.isReport]

theorem Round.silent {ending : Ending}
    (h : Round c endpoint choice budget remaining request turns ending) : Silent turns := by
  cases h with
  | unsent hx => exact hx.silent
  | settled hx hsettles => exact hx.silent.append hsettles.silent

theorem Course.silent {result : Except Failure Token}
    (h : Course c endpoint choice budget remaining request turns result) : Silent turns := by
  induction h with
  | last hlast => exact hlast.silent
  | more hmet _ ih => exact hmet.silent.append ih

theorem Discovers.silent {server : Url} {r : Except Failure Metadata}
    (h : Discovers c server turns r) : Silent turns :=
  silent_of_observations_eq_nil h.observations_eq_nil

variable {σ : Type} (env : Environment σ) (c) (s : σ)

theorem Client.reports_discover (server : Url) :
    Reports .discovery (failure? (c.discover env server s).result)
      (c.discover env server s).trace := by
  obtain ⟨inner, htrace, hdiscovers⟩ := c.discovers_discover env server s
  rw [htrace]
  exact .of_framed hdiscovers.silent ..

theorem Entry.reports_play (request : TokenRequest) (entry : Entry) :
    Reports .negotiation (failure? (entry.play env c request s).result)
      (entry.play env c request s).trace := by
  obtain ⟨stage, inner, htrace, hinner⟩ := entry.course_of_play env c request s
  rw [htrace]
  refine .of_framed ?_ ..
  rcases hinner with ⟨_, rfl, -⟩ | hcourse
  · exact silent_of_observations_eq_nil rfl
  · exact hcourse.silent

end Flows

/-! ### Calls -/

section Calls
variable {σ : Type} (env : Environment σ) (c : Client) (s : σ)

/-- How a call is reported: by each flow that it enters. It enters a negotiation behind a discovery
if the metadata is there and allows one. -/
inductive Call.Reported : Call → Played σ (Except Failure Reply) → Prop
  | discovered {server p} :
      Reports .discovery (failure? p.result) p.trace → Reported (.discovery server) p
  | negotiated {request entry p} :
      Reports .negotiation (failure? p.result) p.trace →
      Reported (.token request (.negotiate entry)) p
  | undiscovered {request server p failure} :
      (c.discover env server s).result = .error failure → failure? p.result = some failure →
      Reports .discovery (some failure) p.trace → Reported (.token request (.obtain server)) p
  /-- The discovery succeeds, although the call fails. -/
  | unsupported {request server p metadata} :
      (c.discover env server s).result = .ok metadata → ¬ metadata.Allows →
      failure? p.result = some (.setup (.unsupportedGrant metadata.issuer.render ticketGrant)) →
      Reports .discovery none p.trace → Reported (.token request (.obtain server)) p
  | obtained {request server p metadata first second} :
      (c.discover env server s).result = .ok metadata → metadata.Allows →
      p.trace = first ++ second → Reports .discovery none first →
      Reports .negotiation (failure? p.result) second →
      Reported (.token request (.obtain server)) p

theorem Call.reported_play (call : Call) : call.Reported env c s (call.play env c s) := by
  cases call with
  | discovery server =>
    refine .discovered ?_
    rw [play, Played.replying, failure?_map]
    exact c.reports_discover env s server
  | token request errand =>
    cases errand with
    | negotiate entry =>
      refine .negotiated ?_
      rw [play, Played.replying, failure?_map]
      exact entry.reports_play c env s request
    | obtain server =>
      have hcontinues := Errand.continues_play env c request server s
      have hreports := c.reports_discover env s server
      rw [play]
      generalize (Errand.obtain server).play env c request s = p at hcontinues
      cases hcontinues with
      | undiscovered hfound =>
        rw [hfound] at hreports
        exact .undiscovered hfound rfl hreports
      | unsupported hfound hallows =>
        rw [hfound] at hreports
        exact .unsupported hfound hallows rfl hreports
      | negotiated hfound hallows =>
        rw [hfound] at hreports
        refine .obtained hfound hallows rfl hreports ?_
        rw [Played.replying, failure?_map]
        exact Entry.reports_play c env _ request _

variable {env c s} {call : Call} {p : Played σ (Except Failure Reply)}

theorem Call.Reported.balanced (h : call.Reported env c s p) : Counter.Balanced p.trace := by
  cases h with
  | discovered hreports | negotiated hreports | undiscovered _ _ hreports
  | unsupported _ _ _ hreports => exact hreports.balanced
  | obtained _ _ htrace hfirst hsecond =>
    rw [htrace]
    exact hfirst.balanced.append hsecond.balanced

/-- A token is negotiated for behind a discovery exactly if that found metadata that allows it. -/
theorem Call.Reported.attempt_mem_iff {request : TokenRequest} {server : Url}
    (h : Call.Reported env c s (.token request (.obtain server)) p) :
    Observation.flow .negotiation .attempt ∈ observations p.trace ↔
      ∃ metadata, (c.discover env server s).result = .ok metadata ∧ metadata.Allows := by
  cases h with
  | undiscovered hfound _ hreports =>
    rw [hreports.attempt_mem_iff]
    refine iff_of_false ?_ (Metadata.not_allows_of_error hfound)
    rintro ⟨⟩
  | unsupported hfound hallows _ hreports =>
    rw [hreports.attempt_mem_iff]
    refine iff_of_false ?_ (Metadata.not_allows_of_ok hfound hallows)
    rintro ⟨⟩
  | obtained hfound hallows htrace _ hsecond =>
    refine iff_of_true ?_ ⟨_, hfound, hallows⟩
    rw [htrace, observations_append, List.mem_append]
    exact .inr (hsecond.attempt_mem_iff.mpr rfl)

end Calls
end TicketGrant
