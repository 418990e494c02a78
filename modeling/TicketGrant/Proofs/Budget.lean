import TicketGrant.Proofs.RoundTrace

/-!
# Budgets

How far a negotiation can go. Each call of the resolver takes one from the budget, and a proof that
is made again takes nothing; so the calls, the requests and the turns of a run are bounded, whatever
servers and resolvers answer. `run_within_budget` collects the bounds, and says when a run ends
because its budget is exhausted.
-/
namespace TicketGrant

open Http Dialogue Trace

/-- The bounds of a run, with some number of requests in a round at most. -/
structure WithinBudget (budget perRound : Nat) (trace : List Turn) : Prop where
  calls : (resolutions trace).length ≤ budget
  requests : (sendings trace).length ≤ perRound * (budget + 1)
  turns : trace.length ≤ 11 * (budget + 1) + 4
  /-- The budget that is left counts down from the whole. -/
  remainders : remainders trace = (List.range (resolutions trace).length).map (budget - ·)
  /-- Before each call something is left. -/
  positive : ∀ left ∈ Trace.remainders trace, 0 < left

/-- As many demands are met as the budget allows, and the round after them ends with another. -/
structure Client.Exhausts (c : Client) (budget : Nat) (trace : List Turn) : Prop where
  meetings : (Trace.meetings trace).length = budget
  demand : ∃ round response, (Trace.rounds trace)[budget]? = some round ∧
    lastResponse? round = some response ∧ c.NeedsInfo response

/-- The budget that a result reports as exhausted. -/
def exhausted? : Except Failure Token → Option Nat
  | .error (.exhausted budget _ _) => some budget
  | _ => none

variable {c : Client} {endpoint : Url} {choice : Option Binding.Choice} {request : TokenRequest}
  {turns after : List Turn} {budget remaining m : Nat} {result : Except Failure Token}

/-! ### The bounds -/

namespace Round
variable {challenge : Challenge} {claim : ClaimToken}

theorem calls_le {ending : Ending}
    (h : Round c endpoint choice budget remaining request turns ending) :
    (resolutions turns).length ≤ remaining := by
  rcases h.calls with ⟨hnone, -⟩ | ⟨_, _, _, -, hone, -, -, hpos⟩
  · rw [hnone]
    exact Nat.zero_le _
  · rw [hone]
    exact Nat.pos_of_ne_zero hpos

theorem remainders_eq {ending : Ending}
    (h : Round c endpoint choice budget remaining request turns ending) :
    remainders turns = (List.range (resolutions turns).length).map (remaining - ·) := by
  rcases h.calls with ⟨hnone, hleft⟩ | ⟨_, _, _, -, hone, hleft, -, -⟩
  · rw [hnone, hleft]
    rfl
  · rw [hone, hleft]
    rfl

/-- A round that leads on has one call, and it spends one of the budget. -/
theorem length_resolutions_of_met
    (h : Round c endpoint choice budget remaining request turns (.met challenge claim)) :
    (resolutions turns).length = 1 := by
  rcases h.calls with ⟨hnone, -⟩ | ⟨_, _, _, -, hone, -, -, -⟩
  · obtain ⟨front, rfl, -, -⟩ := h.of_met
    rw [resolutions_append] at hnone
    cases (List.append_eq_nil_iff.mp hnone).2
  · rw [hone]
    rfl

theorem length_meetings_of_met
    (h : Round c endpoint choice budget remaining request turns (.met challenge claim)) :
    (meetings turns).length = 1 := by
  obtain ⟨front, rfl, hnone, -⟩ := h.of_met
  rw [meetings_append, hnone]
  rfl

end Round

namespace Course

theorem calls_le (h : Course c endpoint choice budget remaining request turns result) :
    (resolutions turns).length ≤ remaining := by
  induction h with
  | last hlast => exact hlast.calls_le
  | more hmet _ ih =>
    rw [resolutions_append, List.length_append, hmet.length_resolutions_of_met]
    omega

theorem requests_le (h : Course c endpoint choice budget remaining request turns result) :
    (sendings turns).length ≤ (if choice.isSome then 2 else 1) * (remaining + 1) := by
  induction h with
  | last hlast => exact Nat.le_trans hlast.length_sendings_le (Nat.le_mul_of_pos_right _ (by omega))
  | more hmet _ ih =>
    rw [sendings_append, List.length_append, Nat.mul_succ _ (_ + 1), Nat.add_comm]
    exact Nat.add_le_add ih hmet.length_sendings_le

theorem turns_le (h : Course c endpoint choice budget remaining request turns result) :
    turns.length ≤ 11 * (remaining + 1) := by
  induction h with
  | last hlast => exact Nat.le_trans hlast.length_le (by omega)
  | more hmet _ ih =>
    have hfirst := hmet.length_le
    rw [List.length_append]
    omega

theorem remainders_eq (h : Course c endpoint choice budget remaining request turns result) :
    remainders turns = (List.range (resolutions turns).length).map (remaining - ·) := by
  induction h with
  | last hlast => exact hlast.remainders_eq
  | @more left request first challenge claim rest result hmet _ ih =>
    have hleft : remainders first = [left + 1] := by
      rw [hmet.remainders_eq, hmet.length_resolutions_of_met]
      rfl
    rw [remainders_append, resolutions_append, List.length_append,
      hmet.length_resolutions_of_met, hleft, ih, Nat.add_comm 1, List.range_succ_eq_map]
    simp [Nat.add_sub_add_right, Function.comp_def]

end Course

/-! ### Exhaustion -/

theorem Sends.exhausted?_eq_none {nonce : Option String} {failure : Failure}
    (h : Sends c endpoint choice request nonce turns (.error failure)) :
    exhausted? (.error failure) = none := by
  cases h <;> rfl

theorem Exchanges.exhausted?_eq_none {failure : Failure}
    (h : Exchanges c endpoint choice request turns (.error failure)) :
    exhausted? (.error failure) = none := by
  obtain ⟨_, _, hsends⟩ := h.exists_sends_of_error
  exact hsends.exhausted?_eq_none

theorem Settles.exhausted_iff {delivery : Delivery}
    (h : Settles c budget remaining delivery after (.ended result)) :
    exhausted? result = some m ↔
      m = budget ∧ remaining = 0 ∧
        ∃ response, delivery.outcome = .ok response ∧ c.NeedsInfo response := by
  constructor
  · intro hsome
    cases h with
    | exhausted hclient hcode hzero =>
      cases hsome
      exact ⟨rfl, hzero, _, rfl, hclient, hcode⟩
    | _ => cases hsome
  · rintro ⟨rfl, hzero, response, houtcome, hneeds⟩
    rcases h.of_needsInfo houtcome hneeds with ⟨-, hended⟩ | ⟨hpos, -⟩
    · cases hended
      rfl
    · exact absurd hzero hpos

theorem Round.exhausted_iff
    (h : Round c endpoint choice budget remaining request turns (.ended result)) :
    exhausted? result = some m ↔
      m = budget ∧ remaining = 0 ∧
        ∃ response, lastResponse? turns = some response ∧ c.NeedsInfo response := by
  cases h with
  | unsent hx =>
    constructor
    · intro hsome
      rw [hx.exhausted?_eq_none] at hsome
      cases hsome
    · rintro ⟨-, -, response, hresponse, hneeds⟩
      exact absurd hneeds (hx.not_needsInfo hresponse)
  | @settled before delivery after _ hx hsettles =>
    rw [hsettles.exhausted_iff, lastResponse?_of_settled hx hsettles]
    simp only [Delivery.toOption_outcome_eq_some_iff]

/-- A course exhausts its budget if every call is met and one more demand comes. -/
theorem Course.exhausted_iff
    (h : Course c endpoint choice budget remaining request turns result) :
    exhausted? result = some m ↔ m = budget ∧ c.Exhausts remaining turns := by
  induction h with
  | @last remaining request turns result hlast =>
    rw [hlast.exhausted_iff]
    have hnone := hlast.meetings_of_ended
    constructor
    · rintro ⟨rfl, rfl, response, hresponse, hneeds⟩
      refine ⟨rfl, by rw [hnone]; rfl, heard turns, response, ?_, by simpa using hresponse, hneeds⟩
      rw [rounds_eq_singleton hnone]
      rfl
    · rintro ⟨rfl, hmeetings, round, response, hround, hresponse, hneeds⟩
      rw [hnone] at hmeetings
      cases hmeetings
      rw [rounds_eq_singleton hnone] at hround
      cases hround
      exact ⟨rfl, rfl, response, by simpa using hresponse, hneeds⟩
  | @more left request first challenge claim rest result hmet _ ih =>
    have hmeetings : (meetings (first ++ rest)).length = (meetings rest).length + 1 := by
      rw [meetings_append, List.length_append, hmet.length_meetings_of_met, Nat.add_comm]
    rw [ih]
    refine and_congr_right fun _ => ?_
    constructor
    · rintro ⟨hcount, round, response, hround, hresponse⟩
      refine ⟨by omega, round, response, ?_, hresponse⟩
      rw [hmet.rounds_append]
      exact hround
    · rintro ⟨hcount, round, response, hround, hresponse⟩
      rw [hmet.rounds_append] at hround
      exact ⟨by omega, round, response, hround, hresponse⟩

/-! ### Whole runs -/

section Framed
variable {α : Type} {kind : FlowKind} {stage : String} {perRound : Nat} {r : Except Failure α}

/-- Nothing that stands around a flow counts but its four turns. -/
theorem WithinBudget.of_inner (hcalls : (resolutions turns).length ≤ budget)
    (hrequests : (sendings turns).length ≤ perRound * (budget + 1))
    (hturns : turns.length ≤ 11 * (budget + 1))
    (hremainders : Trace.remainders turns =
      (List.range (resolutions turns).length).map (budget - ·)) :
    WithinBudget budget perRound (framed kind stage turns r) where
  calls := by rwa [resolutions_framed]
  requests := by rwa [sendings_framed]
  turns := Nat.le_trans length_framed_le (Nat.add_le_add_right hturns 4)
  remainders := by rwa [remainders_framed, resolutions_framed]
  positive := by
    intro left hmem
    rw [remainders_framed, hremainders, List.mem_map] at hmem
    obtain ⟨spent, hspent, rfl⟩ := hmem
    have := List.mem_range.mp hspent
    omega

theorem Client.exhausts_framed_iff :
    c.Exhausts budget (framed kind stage turns r) ↔ c.Exhausts budget turns := by
  constructor
  · rintro ⟨hcount, hdemand⟩
    rw [meetings_framed] at hcount
    rw [rounds_framed] at hdemand
    exact ⟨hcount, hdemand⟩
  · rintro ⟨hcount, hdemand⟩
    exact ⟨by rwa [meetings_framed], by rwa [rounds_framed]⟩

end Framed

theorem Client.not_exhausts_nil : ¬ c.Exhausts budget [] := by
  rintro ⟨hcount, round, response, hround, hresponse, -⟩
  cases hcount
  cases hround
  cases hresponse

/-- Every run keeps within its budget. It reports an exhausted budget exactly if the whole budget
was spent on claims and the round after them ended with another demand, and then it reports the
whole budget. In that round the resolver is not called. -/
theorem run_within_budget {σ : Type} (env : Environment σ) (c : Client) (request : TokenRequest)
    (s : σ) (entry : Entry) :
    WithinBudget (entry.budget c) (if (entry.choice? c).isSome then 2 else 1)
        (entry.play env c request s).trace ∧
      (∀ m, exhausted? (entry.play env c request s).result = some m ↔
        m = entry.budget c ∧ c.Exhausts (entry.budget c) (entry.play env c request s).trace) ∧
      ∀ round, (rounds (entry.play env c request s).trace)[entry.budget c]? = some round →
        resolutions round = [] := by
  obtain ⟨stage, inner, htrace, ⟨fault, rfl, hresult⟩ | hcourse⟩ :=
    entry.course_of_play env c request s
  · rw [htrace]
    refine ⟨.of_inner (Nat.zero_le _) (Nat.zero_le _) (Nat.zero_le _) rfl, fun m => ?_,
      fun round hround => ?_⟩
    · rw [Client.exhausts_framed_iff, hresult]
      constructor
      · rintro ⟨⟩
      · rintro ⟨-, hexhausts⟩
        exact absurd hexhausts Client.not_exhausts_nil
    · rw [rounds_framed] at hround
      obtain rfl := List.mem_singleton.mp (List.mem_of_getElem? hround)
      rfl
  · rw [htrace]
    refine ⟨.of_inner hcourse.calls_le hcourse.requests_le hcourse.turns_le hcourse.remainders_eq,
      fun m => ?_, fun round hround => ?_⟩
    · rw [Client.exhausts_framed_iff]
      exact hcourse.exhausted_iff
    · rw [rounds_framed] at hround
      obtain ⟨current, turns, ending, -, hturns, rfl, -, -⟩ := hcourse.round_at hround
      rw [Nat.sub_self] at hturns
      rw [resolutions_heard]
      exact List.length_eq_zero_iff.mp (Nat.le_zero.mp hturns.calls_le)

end TicketGrant
