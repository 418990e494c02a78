import TicketGrant.Proofs.Budget

/-!
# Counters

What a client counts while it works. A counter is raised by what is observed, so it grows along a
trace part by part. The demands for claims are counted when they go to the resolver: their counter
tells how often it was called, and not how often it found a claim (`demands_counted`).
-/
namespace TicketGrant

open Http Dialogue Trace

/-- What is counted under a name, or only what is counted under it with some labels. -/
structure Counter where
  name : String
  labels? : Option (List (String × String)) := none

namespace Counter

/-- How far a record raises the counter. -/
def raise (counter : Counter) : Recorded → Nat
  | .counter name labels amount =>
    if name = counter.name ∧ counter.labels?.all (· == labels) then amount else 0
  | .span .. | .event .. => 0

/-- How far it rises with all that is observed. -/
def total (counter : Counter) : List Observation → Nat
  | [] => 0
  | entry :: rest => counter.raise entry.recorded + counter.total rest

/-- How far it rises along a trace. -/
def growth (counter : Counter) (trace : List Turn) : Nat := counter.total (observations trace)

/-- The demands for claims. -/
def demands : Counter where
  name := "uma_negotiator_need_info_rounds_total"

/-- The requests sent again with a nonce. -/
def nonceRetries : Counter where
  name := "uma_negotiator_dpop_nonce_retries_total"

/-- The flows that have come so far. -/
def flows (kind : FlowKind) (outcome : FlowOutcome) : Counter where
  name := "uma_negotiator_flow_total"
  labels? := some [("flow", kind.label), ("outcome", outcome.label)]

variable (counter : Counter)

theorem total_append (xs ys : List Observation) :
    counter.total (xs ++ ys) = counter.total xs + counter.total ys := by
  induction xs with
  | nil => exact (Nat.zero_add _).symm
  | cons x xs ih => rw [List.cons_append, total, ih, total, Nat.add_assoc]

@[simp] theorem growth_append (xs ys : List Turn) :
    counter.growth (xs ++ ys) = counter.growth xs + counter.growth ys := by
  rw [growth, observations_append, total_append, growth, growth]

theorem growth_eq_zero {xs : List Turn} (h : observations xs = []) : counter.growth xs = 0 := by
  rw [growth, h, total]

/-- Around a flow only flows are counted. -/
theorem growth_framed {counter : Counter}
    (h : ∀ kind outcome, counter.raise (Observation.flow kind outcome).recorded = 0) {α : Type}
    {kind : FlowKind} {stage : String} {inner : List Turn} {result : Except Failure α} :
    counter.growth (framed kind stage inner result) = counter.growth inner := by
  have hopening : counter.growth (Flow.opening kind stage) = 0 :=
    (Nat.zero_add _).trans (h kind .attempt)
  have hclosing : counter.growth (Flow.closing kind result) = 0 := by
    cases result with
    | ok => exact h kind .success
    | error => exact (Nat.zero_add _).trans (h kind .failure)
  rw [framed, growth_append, growth_append, hopening, hclosing, Nat.zero_add, Nat.add_zero]

end Counter

variable {c : Client} {endpoint : Url} {choice : Option Binding.Choice} {request : TokenRequest}
  {nonce : Option String} {turns after : List Turn} {budget remaining : Nat}

/-! ### What is observed of a round -/

theorem Proves.observations_eq_nil {proof : Option String}
    (h : Proves endpoint choice nonce turns proof) : observations turns = [] := by
  cases h <;> rfl

theorem Sends.observations_eq_nil {outcome : Except Failure (Request × Delivery)}
    (h : Sends c endpoint choice request nonce turns outcome) : observations turns = [] := by
  cases h with
  | unsigned => rfl
  | unbuilt hproof => exact hproof.observations_eq_nil
  | sent hproof =>
    rw [observations_append, hproof.observations_eq_nil]
    rfl

/-- Between two requests it is told and counted that the second goes out. -/
theorem Sends.observations_again {outcome outcome' : Except Failure (Request × Delivery)}
    {first second : List Turn} {nonce' : Option String}
    (h : Sends c endpoint choice request nonce first outcome)
    (h' : Sends c endpoint choice request nonce' second outcome') (algorithm : String) :
    observations (first ++ .observed (.resend algorithm) :: .observed (.nonceRetry algorithm) ::
      second) = [.resend algorithm, .nonceRetry algorithm] := by
  rw [observations_append, h.observations_eq_nil, List.nil_append]
  exact congrArg (.resend algorithm :: .nonceRetry algorithm :: ·) h'.observations_eq_nil

theorem Exchanges.observations_eq {outcome : Except Failure Delivery}
    (h : Exchanges c endpoint choice request turns outcome) :
    observations turns = [] ∨
      ∃ algorithm, observations turns = [.resend algorithm, .nonceRetry algorithm] := by
  cases h with
  | unsent hfirst | once hfirst => exact .inl hfirst.observations_eq_nil
  | again hfirst _ hsecond => exact .inr ⟨_, hfirst.observations_again hsecond _⟩

/-- After a delivery nothing is observed unless the resolver is called. -/
theorem Settles.observations_eq {delivery : Delivery} {ending : Ending}
    (h : Settles c budget remaining delivery after ending) :
    (observations after = [] ∧ resolutions after = []) ∨
      ∃ challenge resolution, after = asking remaining challenge resolution := by
  cases h with
  | unmet | aborted | met => exact .inr ⟨_, _, rfl⟩
  | _ => exact .inl ⟨rfl, rfl⟩

/-! ### Demands -/

theorem Exchanges.growth_demands {outcome : Except Failure Delivery}
    (h : Exchanges c endpoint choice request turns outcome) :
    Counter.demands.growth turns = 0 := by
  rcases h.observations_eq with hnone | ⟨algorithm, htwo⟩
  · exact Counter.demands.growth_eq_zero hnone
  · rw [Counter.growth, htwo]
    rfl

theorem Settles.growth_demands {delivery : Delivery} {ending : Ending}
    (h : Settles c budget remaining delivery after ending) :
    Counter.demands.growth after = (resolutions after).length := by
  rcases h.observations_eq with ⟨hseen, hcalls⟩ | ⟨challenge, resolution, rfl⟩
  · rw [Counter.demands.growth_eq_zero hseen, hcalls, List.length_nil]
  · rfl

theorem Round.growth_demands {ending : Ending}
    (h : Round c endpoint choice budget remaining request turns ending) :
    Counter.demands.growth turns = (resolutions turns).length := by
  cases h with
  | unsent hx => rw [hx.growth_demands, hx.resolutions_eq_nil, List.length_nil]
  | settled hx hsettles =>
    rw [Counter.growth_append, hx.growth_demands, hsettles.growth_demands, resolutions_append,
      hx.resolutions_eq_nil, Nat.zero_add, List.nil_append]

theorem Round.length_resolutions_le {ending : Ending}
    (h : Round c endpoint choice budget remaining request turns ending) :
    (resolutions turns).length ≤ 1 := by
  rcases h.calls with ⟨hnone, -⟩ | ⟨_, _, _, -, hone, -⟩
  · rw [hnone]
    exact Nat.zero_le 1
  · rw [hone]
    exact Nat.le_refl 1

namespace Course
variable {result : Except Failure Token}

theorem growth_demands (h : Course c endpoint choice budget remaining request turns result) :
    Counter.demands.growth turns = (resolutions turns).length := by
  induction h with
  | last hlast => exact hlast.growth_demands
  | more hmet _ ih =>
    rw [Counter.growth_append, hmet.growth_demands, ih, resolutions_append, List.length_append]

/-- Only the last call may find no claim, for then the negotiation is over. -/
theorem length_resolutions_le
    (h : Course c endpoint choice budget remaining request turns result) :
    (resolutions turns).length ≤ (meetings turns).length + 1 := by
  induction h with
  | last hlast =>
    rw [hlast.meetings_of_ended]
    exact hlast.length_resolutions_le
  | more hmet _ ih =>
    rw [resolutions_append, List.length_append, hmet.length_resolutions_of_met, meetings_append,
      List.length_append, hmet.length_meetings_of_met]
    omega

/-- Each claim leads to another round. -/
theorem length_rounds (h : Course c endpoint choice budget remaining request turns result) :
    (rounds turns).length = (meetings turns).length + 1 := by
  induction h with
  | last hlast =>
    rw [rounds_eq_singleton hlast.meetings_of_ended, hlast.meetings_of_ended]
    rfl
  | more hmet _ ih =>
    rw [hmet.rounds_append, List.length_cons, ih, meetings_append, List.length_append,
      hmet.length_meetings_of_met]
    omega

end Course

/-- The claim that a call of the resolver found. -/
def Trace.found? : Challenge × Resolution → Option (Challenge × ClaimToken)
  | (challenge, .claim token) => some (challenge, token)
  | _ => none

theorem Trace.found?_isSome_iff {call : Challenge × Resolution} :
    (found? call).isSome = true ↔ ∃ token, call.2 = .claim token := by
  obtain ⟨challenge, resolution⟩ := call
  cases resolution <;> simp [found?]

theorem Trace.meetings_eq (xs : List Turn) : meetings xs = (resolutions xs).filterMap found? := by
  rw [meetings, resolutions, List.filterMap_filterMap]
  congr 1
  funext turn
  cases turn with
  | resolved challenge resolution => cases resolution <;> rfl
  | _ => rfl

theorem Trace.length_meetings_eq_iff {xs : List Turn} :
    (meetings xs).length = (resolutions xs).length ↔
      ∀ call ∈ resolutions xs, ∃ token, call.2 = .claim token := by
  rw [meetings_eq, List.filterMap_length_eq_length]
  simp only [found?_isSome_iff]

/-- In every negotiation the counter of demands grows by the calls of the resolver. It is one ahead
of the claims that were found, of which each has started a round, if the last call found none; and
it tells how many were found exactly if all calls found one. -/
theorem demands_counted {σ : Type} (env : Environment σ) (c : Client) (request : TokenRequest)
    (s : σ) (entry : Entry) :
    let trace := (entry.play env c request s).trace
    Counter.demands.growth trace = (resolutions trace).length ∧
      (meetings trace).length ≤ Counter.demands.growth trace ∧
      Counter.demands.growth trace ≤ (meetings trace).length + 1 ∧
      (rounds trace).length = (meetings trace).length + 1 ∧
      (Counter.demands.growth trace = (meetings trace).length ↔
        ∀ call ∈ resolutions trace, ∃ token, call.2 = .claim token) := by
  intro trace
  obtain ⟨stage, inner, htrace, hinner⟩ := entry.course_of_play env c request s
  have htrace : trace = framed .negotiation stage inner (entry.play env c request s).result := htrace
  have hgrowth : Counter.demands.growth trace = (resolutions trace).length := by
    rw [htrace, Counter.growth_framed fun _ _ => rfl, resolutions_framed]
    rcases hinner with ⟨_, rfl, -⟩ | hcourse
    · rfl
    · exact hcourse.growth_demands
  rw [hgrowth]
  refine ⟨rfl, ?_, ?_, ?_, eq_comm.trans length_meetings_eq_iff⟩
  · rw [meetings_eq]
    exact List.length_filterMap_le _ _
  · rw [htrace, resolutions_framed, meetings_framed]
    rcases hinner with ⟨_, rfl, -⟩ | hcourse
    · exact Nat.zero_le _
    · exact hcourse.length_resolutions_le
  · rw [htrace, rounds_framed, meetings_framed]
    rcases hinner with ⟨_, rfl, -⟩ | hcourse
    · rfl
    · exact hcourse.length_rounds

/-- The resolver has nothing to offer: a demand is counted, no claim was found, and no round is
started. -/
theorem demand_counted_of_nothing :
    let p := (Entry.negotiate Sample.endpoint 5).play Script.environment {} { ticket := "first" }
      { Sample.script [Sample.demand "second"] with resolutions := [.nothing] }
    Counter.demands.growth p.trace = 1 ∧ (meetings p.trace).length = 0 ∧
      (rounds p.trace).length = 1 := by
  decide +kernel

end TicketGrant
