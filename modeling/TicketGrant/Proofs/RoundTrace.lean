import TicketGrant.Proofs.Rounds

/-!
# Rounds in a trace

What a round leaves in a trace: at most two requests, at most one call of the resolver, and a claim
only at its end. So the rounds of a trace are those of its course (`round_at`), and laws about the
nth round of a run are laws about `Round`.
-/
namespace TicketGrant

open Http Dialogue Trace

variable {c : Client} {endpoint : Url} {choice : Option Binding.Choice} {request : TokenRequest}
  {nonce : Option String} {turns after : List Turn} {budget remaining : Nat}

/-! ### Requests -/

section Sends
variable {outcome : Except Failure (Request × Delivery)}

theorem Sends.sendings_eq (h : Sends c endpoint choice request nonce turns outcome) :
    sendings turns = outcome.toOption.toList := by
  cases h with
  | unsigned => rfl
  | unbuilt hproof | sent hproof => cases hproof <;> rfl

/-- Between two requests there are only observations. -/
theorem Sends.sendings_again (h : Sends c endpoint choice request nonce turns outcome)
    (algorithm : String) :
    sendings (.observed (.resend algorithm) :: .observed (.nonceRetry algorithm) :: turns) =
      outcome.toOption.toList :=
  h.sendings_eq

theorem Sends.resolutions_eq_nil (h : Sends c endpoint choice request nonce turns outcome) :
    resolutions turns = [] := by
  cases h with
  | unsigned => rfl
  | unbuilt hproof | sent hproof => cases hproof <;> rfl

theorem Sends.remainders_eq_nil (h : Sends c endpoint choice request nonce turns outcome) :
    remainders turns = [] := by
  cases h with
  | unsigned => rfl
  | unbuilt hproof | sent hproof => cases hproof <;> rfl

/-- At most one request is sent. -/
theorem Sends.length_sendings_le (h : Sends c endpoint choice request nonce turns outcome) :
    (sendings turns).length ≤ 1 := by
  rw [h.sendings_eq]
  cases outcome <;> simp [Except.toOption]

theorem Sends.eq_ok_of_mem (h : Sends c endpoint choice request nonce turns outcome)
    {sending : Request × Delivery} (hmem : sending ∈ sendings turns) : outcome = .ok sending := by
  rw [h.sendings_eq] at hmem
  cases outcome with
  | error failure => cases hmem
  | ok only => rw [List.mem_singleton.mp hmem]

theorem Sends.length_le (h : Sends c endpoint choice request nonce turns outcome) :
    turns.length ≤ 3 := by
  cases h with
  | unsigned => simp
  | unbuilt hproof | sent hproof => cases hproof <;> simp

end Sends

/-! ### Exchanges -/

section Exchanges
variable {outcome : Except Failure Delivery}

theorem Exchanges.resolutions_eq_nil (h : Exchanges c endpoint choice request turns outcome) :
    resolutions turns = [] := by
  cases h with
  | unsent hfirst | once hfirst => exact hfirst.resolutions_eq_nil
  | again hfirst _ hsecond =>
    rw [resolutions_append, hfirst.resolutions_eq_nil, List.nil_append]
    exact hsecond.resolutions_eq_nil

theorem Exchanges.remainders_eq_nil (h : Exchanges c endpoint choice request turns outcome) :
    remainders turns = [] := by
  cases h with
  | unsent hfirst | once hfirst => exact hfirst.remainders_eq_nil
  | again hfirst _ hsecond =>
    rw [remainders_append, hfirst.remainders_eq_nil, List.nil_append]
    exact hsecond.remainders_eq_nil

theorem Exchanges.length_le (h : Exchanges c endpoint choice request turns outcome) :
    turns.length ≤ 8 := by
  cases h with
  | unsent hfirst | once hfirst => exact Nat.le_trans hfirst.length_le (by decide)
  | again hfirst _ hsecond =>
    have h₁ := hfirst.length_le
    have h₂ := hsecond.length_le
    simp only [List.length_append, List.length_cons]
    omega

/-- Each request of an exchange is the same but for its proof. -/
theorem Exchanges.exists_sends (h : Exchanges c endpoint choice request turns outcome)
    {sending : Request × Delivery} (hmem : sending ∈ sendings turns) :
    ∃ nonce front, Sends c endpoint choice request nonce front (.ok sending) := by
  cases h with
  | unsent hfirst | once hfirst => exact ⟨_, _, hfirst.eq_ok_of_mem hmem ▸ hfirst⟩
  | again hfirst _ hsecond =>
    rw [sendings_append, List.mem_append] at hmem
    rcases hmem with hmem | hmem
    · exact ⟨_, _, hfirst.eq_ok_of_mem hmem ▸ hfirst⟩
    · exact ⟨_, _, hsecond.eq_ok_of_mem hmem ▸ hsecond⟩

/-- An exchange comes to what its last request comes to; one that was sent before was answered. -/
theorem Exchanges.exists_last (h : Exchanges c endpoint choice request turns outcome) :
    ∃ front nonce last sent, turns = front ++ last ∧
      (∀ sending ∈ sendings front, ∃ response, sending.2.outcome = .ok response) ∧
      Sends c endpoint choice request nonce last sent ∧ outcome = sent.map Prod.snd := by
  cases h with
  | unsent hfirst | once hfirst => exact ⟨[], _, _, _, rfl, List.forall_mem_nil _, hfirst, rfl⟩
  | @again first sending used _ second _ hfirst hdemands hsecond =>
    obtain ⟨response, hresponse, -⟩ := hdemands.answer
    have hfront : sendings (first ++
        [.observed (.resend used.algorithm), .observed (.nonceRetry used.algorithm)]) =
          [sending] := by
      rw [sendings_append, hfirst.sendings_eq]
      rfl
    refine ⟨_, _, second, _, (List.append_assoc first [_, _] second).symm, ?_, hsecond, rfl⟩
    rw [hfront]
    exact List.forall_mem_singleton.mpr ⟨response, hresponse⟩

/-- An exchange that fails before a delivery fails with one of its requests. -/
theorem Exchanges.exists_sends_of_error {failure : Failure}
    (h : Exchanges c endpoint choice request turns (.error failure)) :
    ∃ nonce front, Sends c endpoint choice request nonce front (.error failure) := by
  obtain ⟨-, nonce, last, sent, -, -, hlast, houtcome⟩ := h.exists_last
  cases sent with
  | ok => cases houtcome
  | error =>
    cases houtcome
    exact ⟨nonce, last, hlast⟩

/-- Only a bound request is sent twice. -/
theorem Exchanges.length_sendings_le (h : Exchanges c endpoint choice request turns outcome) :
    (sendings turns).length ≤ if choice.isSome then 2 else 1 := by
  cases h with
  | unsent hfirst | once hfirst =>
    exact Nat.le_trans hfirst.length_sendings_le (by split <;> decide)
  | again hfirst hdemands hsecond =>
    rw [hdemands.choice, Option.isSome_some, if_pos rfl, sendings_append, List.length_append]
    exact Nat.add_le_add hfirst.length_sendings_le hsecond.length_sendings_le

/-- The delivery of an exchange is the last one. -/
theorem Exchanges.getLast?_sendings {delivery : Delivery}
    (h : Exchanges c endpoint choice request turns (.ok delivery)) :
    ∃ sent, (sendings turns).getLast? = some (sent, delivery) := by
  obtain ⟨front, _, last, sent, rfl, -, hlast, houtcome⟩ := h.exists_last
  cases sent with
  | error => cases houtcome
  | ok sending =>
    cases houtcome
    refine ⟨sending.1, ?_⟩
    rw [sendings_append, hlast.sendings_eq]
    exact List.getLast?_concat

end Exchanges

/-- If no request can be sent any more, no demand for claims came before. -/
theorem Exchanges.not_needsInfo {failure : Failure} {response : Response}
    (h : Exchanges c endpoint choice request turns (.error failure))
    (hlast : lastResponse? turns = some response) : ¬ c.NeedsInfo response := by
  intro hneeds
  generalize houtcome : Except.error failure = outcome at h
  cases h with
  | unsent hfirst =>
    cases houtcome
    rw [lastResponse?, hfirst.sendings_eq] at hlast
    cases hlast
  | once => cases houtcome
  | @again first sending used nonce second outcome hfirst hdemands hsecond =>
    cases outcome with
    | ok => cases houtcome
    | error failure =>
      -- the last answer is the first one, and its code demands a nonce
      obtain ⟨answer, hanswer, hnonce⟩ := hdemands.answer
      have hsendings : sendings (first ++ .observed (.resend used.algorithm) ::
          .observed (.nonceRetry used.algorithm) :: second) = [sending] := by
        rw [sendings_append, hfirst.sendings_eq, hsecond.sendings_again]
        rfl
      rw [lastResponse?, hsendings, List.getLast?_singleton, Option.bind_some, hanswer] at hlast
      cases hlast
      have hcode := (Client.demandedNonce?_eq_some_iff.mp hnonce).2.1
      rw [hneeds.code] at hcode
      exact absurd hcode (by decide)

/-! ### Settlements -/

section Settles
variable {delivery : Delivery} {ending : Ending}

theorem Settles.sendings_eq_nil (h : Settles c budget remaining delivery after ending) :
    sendings after = [] := by
  cases h <;> rfl

theorem Settles.length_le (h : Settles c budget remaining delivery after ending) :
    after.length ≤ 3 := by
  cases h <;> simp [asking]

theorem Http.Delivery.toOption_outcome_eq_some_iff {response : Response} :
    delivery.outcome.toOption = some response ↔ delivery.outcome = .ok response := by
  cases delivery.outcome <;> simp [Except.toOption]

/-- The resolver is called at most once, for a demand in the delivery and within the budget. -/
theorem Settles.calls (h : Settles c budget remaining delivery after ending) :
    (resolutions after = [] ∧ remainders after = []) ∨
      ∃ response challenge resolution, delivery.outcome = .ok response ∧
        after = asking remaining challenge resolution ∧ c.Demands response challenge ∧
        remaining ≠ 0 := by
  cases h with
  | unmet hdemands hpos | aborted hdemands hpos | met hdemands hpos =>
    exact .inr ⟨_, _, _, rfl, rfl, hdemands, hpos⟩
  | _ => exact .inl ⟨rfl, rfl⟩

/-- A demand in the delivery exhausts the budget, or lacks a ticket, or goes to the resolver. -/
theorem Settles.of_needsInfo {response : Response}
    (h : Settles c budget remaining delivery after ending)
    (houtcome : delivery.outcome = .ok response) (hneeds : c.NeedsInfo response) :
    (remaining = 0 ∧ ending = .ended (.error
        (.exhausted budget (some response.status) (c.descriptionIn response)))) ∨
      remaining ≠ 0 ∧
        (Challenge.ofBody? c.codec response.body (some response.status) = none ∨
          ∃ challenge resolution,
            Challenge.ofBody? c.codec response.body (some response.status) = some challenge ∧
            after = asking remaining challenge resolution) := by
  obtain ⟨hclient, hcode⟩ := hneeds
  cases h with
  | undelivered => cases houtcome
  | token hsuccess | unreadable hsuccess | invalid hsuccess =>
    cases houtcome
    rw [Status.not_isSuccess_of_isClientError hclient] at hsuccess
    cases hsuccess
  | unexpected _ hother =>
    cases houtcome
    rw [hclient] at hother
    cases hother
  | invalidGrant _ hother | invalidScope _ hother | denied _ hother =>
    cases houtcome
    rw [hcode] at hother
    exact absurd hother (by decide)
  | server _ hother =>
    cases houtcome
    rw [hcode] at hother
    exact absurd hother (by decide)
  | exhausted _ _ hzero =>
    cases houtcome
    exact .inl ⟨hzero, rfl⟩
  | noTicket _ _ hpos hbody =>
    cases houtcome
    exact .inr ⟨hpos, .inl hbody⟩
  | unmet hdemands hpos | aborted hdemands hpos | met hdemands hpos =>
    cases houtcome
    exact .inr ⟨hpos, .inr ⟨_, _, hdemands.challenge, rfl⟩⟩

theorem Settles.of_met {challenge : Challenge} {claim : ClaimToken}
    (h : Settles c budget remaining delivery after (.met challenge claim)) :
    after = asking remaining challenge (.claim claim) ∧ remaining ≠ 0 := by
  cases h with
  | met _ hpos => exact ⟨rfl, hpos⟩

theorem Settles.meetings_of_ended {result : Except Failure Token}
    (h : Settles c budget remaining delivery after (.ended result)) : meetings after = [] := by
  cases h <;> rfl

end Settles

/-! ### Rounds -/

namespace Round
variable {ending : Ending}

theorem length_le (h : Round c endpoint choice budget remaining request turns ending) :
    turns.length ≤ 11 := by
  cases h with
  | unsent hx => exact Nat.le_trans hx.length_le (by decide)
  | settled hx hsettles =>
    rw [List.length_append]
    exact Nat.add_le_add hx.length_le hsettles.length_le

theorem length_sendings_le (h : Round c endpoint choice budget remaining request turns ending) :
    (sendings turns).length ≤ if choice.isSome then 2 else 1 := by
  cases h with
  | unsent hx => exact hx.length_sendings_le
  | settled hx hsettles =>
    rw [sendings_append, hsettles.sendings_eq_nil, List.append_nil]
    exact hx.length_sendings_le

theorem exists_sends (h : Round c endpoint choice budget remaining request turns ending)
    {sending : Request × Delivery} (hmem : sending ∈ sendings turns) :
    ∃ nonce front, Sends c endpoint choice request nonce front (.ok sending) := by
  cases h with
  | unsent hx => exact hx.exists_sends hmem
  | settled hx hsettles =>
    rw [sendings_append, hsettles.sendings_eq_nil, List.append_nil] at hmem
    exact hx.exists_sends hmem

/-- The delivery that settles a round is its last. -/
theorem lastResponse?_of_settled {before : List Turn} {delivery : Delivery}
    (hx : Exchanges c endpoint choice request before (.ok delivery))
    (hsettles : Settles c budget remaining delivery after ending) :
    lastResponse? (before ++ after) = delivery.outcome.toOption := by
  obtain ⟨sent, hlast⟩ := hx.getLast?_sendings
  rw [lastResponse?, sendings_append, hsettles.sendings_eq_nil, List.append_nil, hlast]
  rfl

/-- The resolver is called at most once in a round, for the demand in its last response. -/
theorem calls (h : Round c endpoint choice budget remaining request turns ending) :
    (resolutions turns = [] ∧ remainders turns = []) ∨
      ∃ response challenge resolution, lastResponse? turns = some response ∧
        resolutions turns = [(challenge, resolution)] ∧ remainders turns = [remaining] ∧
        c.Demands response challenge ∧ remaining ≠ 0 := by
  cases h with
  | unsent hx => exact .inl ⟨hx.resolutions_eq_nil, hx.remainders_eq_nil⟩
  | settled hx hsettles =>
    have hlast := lastResponse?_of_settled hx hsettles
    rw [resolutions_append, hx.resolutions_eq_nil, remainders_append, hx.remainders_eq_nil,
      List.nil_append, List.nil_append]
    rcases hsettles.calls with hnone |
      ⟨response, challenge, resolution, houtcome, rfl, hdemands, hpos⟩
    · exact .inl hnone
    · rw [houtcome] at hlast
      exact .inr ⟨response, challenge, resolution, hlast, rfl, rfl, hdemands, hpos⟩

theorem meetings_of_ended {result : Except Failure Token}
    (h : Round c endpoint choice budget remaining request turns (.ended result)) :
    meetings turns = [] := by
  cases h with
  | unsent hx => exact meetings_eq_nil_of_resolutions hx.resolutions_eq_nil
  | settled hx hsettles =>
    rw [meetings_append, meetings_eq_nil_of_resolutions hx.resolutions_eq_nil,
      hsettles.meetings_of_ended, List.append_nil]

/-- The claim that leads on is the last turn of its round. -/
theorem of_met {challenge : Challenge} {claim : ClaimToken}
    (h : Round c endpoint choice budget remaining request turns (.met challenge claim)) :
    ∃ front, turns = front ++ [.resolved challenge (.claim claim)] ∧ meetings front = [] ∧
      remaining ≠ 0 := by
  cases h with
  | @settled before _ _ _ hx hsettles =>
    obtain ⟨rfl, hpos⟩ := hsettles.of_met
    refine ⟨before ++ [.observed (.challenge remaining challenge.requiredClaims.length),
      .observed .round], by simp [asking], ?_, hpos⟩
    rw [meetings_append, meetings_eq_nil_of_resolutions hx.resolutions_eq_nil]
    rfl

theorem demands_of_met {challenge : Challenge} {claim : ClaimToken}
    (h : Round c endpoint choice budget remaining request turns (.met challenge claim)) :
    ∃ response, lastResponse? turns = some response ∧ c.Demands response challenge := by
  cases h with
  | settled hx hsettles =>
    have hlast := lastResponse?_of_settled hx hsettles
    cases hsettles with
    | met hdemands => exact ⟨_, hlast, hdemands⟩

theorem rounds_append {challenge : Challenge} {claim : ClaimToken} {rest : List Turn}
    (h : Round c endpoint choice budget remaining request turns (.met challenge claim)) :
    rounds (turns ++ rest) = heard turns :: rounds rest := by
  obtain ⟨front, rfl, hnone, -⟩ := h.of_met
  rw [List.append_assoc, List.singleton_append, rounds_append_cons hnone, heard_append]
  rfl

theorem meetingOf?_heard {challenge : Challenge} {claim : ClaimToken}
    (h : Round c endpoint choice budget remaining request turns (.met challenge claim)) :
    meetingOf? (heard turns) = some (challenge, claim) := by
  obtain ⟨front, rfl, -, -⟩ := h.of_met
  have hlast : heard [Turn.resolved challenge (.claim claim)] =
      [.resolved challenge (.claim claim)] := rfl
  rw [meetingOf?, heard_append, hlast, List.getLast?_concat]
  rfl

end Round

@[simp] theorem Trace.lastResponse?_heard (xs : List Turn) :
    lastResponse? (heard xs) = lastResponse? xs := by
  rw [lastResponse?, sendings_heard, lastResponse?]

/-! ### The requests of a negotiation -/

theorem Course.exists_sends {result : Except Failure Token}
    (h : Course c endpoint choice budget remaining request turns result)
    {sending : Request × Delivery} (hmem : sending ∈ sendings turns) :
    ∃ current nonce front, Sends c endpoint choice current nonce front (.ok sending) := by
  induction h with
  | @last _ request _ _ hlast => exact ⟨request, hlast.exists_sends hmem⟩
  | @more _ request _ _ _ _ _ hmet _ ih =>
    rw [sendings_append, List.mem_append] at hmem
    rcases hmem with hmem | hmem
    · exact ⟨request, hmet.exists_sends hmem⟩
    · exact ih hmem

/-- Whatever a negotiation sends is a token request of the client. -/
theorem Client.exists_sends_of_utters {stage : String} {budget : UInt32}
    {result : Except Failure Token}
    (h : (c.negotiation stage endpoint choice budget request).Utters turns result)
    {sending : Request × Delivery} (hmem : sending ∈ sendings turns) :
    ∃ current nonce front, Sends c endpoint choice current nonce front (.ok sending) := by
  obtain ⟨inner, rfl, ⟨-, -, rfl, -⟩ | ⟨-, hcourse⟩⟩ := negotiation_of_utters h
  all_goals rw [sendings_framed] at hmem
  · cases hmem
  · exact hcourse.exists_sends hmem

/-! ### The rounds of a course -/

/-- The request of a round: the first one, with the ticket and the claim that the round before
came to. -/
def TokenRequest.current (request : TokenRequest) (rounds : List (List Turn)) :
    Nat → Option TokenRequest
  | 0 => some request
  | n + 1 => (rounds[n]?.bind meetingOf?).map fun (challenge, claim) =>
      request.nextRound challenge.ticket claim

/-- What stands in a trace after a round: nothing if it ended the negotiation, and the next round if
its demand was met. -/
inductive Follows (rounds : List (List Turn)) (result : Except Failure Token) (n : Nat) :
    Ending → Prop
  | last : rounds.length = n + 1 → Follows rounds result n (.ended result)
  | more {round challenge claim} : rounds[n]? = some round →
      meetingOf? round = some (challenge, claim) → n + 1 < rounds.length →
      Follows rounds result n (.met challenge claim)

theorem Follows.result_eq {rounds : List (List Turn)} {n : Nat} {result r : Except Failure Token}
    (h : Follows rounds result n (.ended r)) : result = r := by
  cases h with
  | last => rfl

/-- The nth round of a trace is a round of its course, of which the budget is less by `n`. -/
theorem Course.round_at {result : Except Failure Token}
    (h : Course c endpoint choice budget remaining request turns result) {n : Nat}
    {round : List Turn} (hround : (rounds turns)[n]? = some round) :
    ∃ current inner ending, request.current (rounds turns) n = some current ∧
      Round c endpoint choice budget (remaining - n) current inner ending ∧
      round = heard inner ∧ n ≤ remaining ∧ Follows (rounds turns) result n ending := by
  induction h generalizing n with
  | @last remaining request turns result hlast =>
    rw [rounds_eq_singleton hlast.meetings_of_ended] at hround ⊢
    cases n with
    | zero =>
      cases hround
      exact ⟨request, turns, _, rfl, hlast, rfl, Nat.zero_le _, .last rfl⟩
    | succ n => simp at hround
  | @more left request first challenge claim rest result hmet _ ih =>
    rw [hmet.rounds_append] at hround ⊢
    cases n with
    | zero =>
      cases hround
      have hmore := List.length_pos_iff.mpr (rounds_ne_nil rest)
      exact ⟨request, first, _, rfl, hmet, rfl, Nat.zero_le _,
        .more rfl hmet.meetingOf?_heard (by simpa using hmore)⟩
    | succ n =>
      obtain ⟨current, inner, ending, hcurrent, hinner, heq, hle, hfollows⟩ := ih hround
      refine ⟨current, inner, ending, ?_, by simpa using hinner, heq, by omega, ?_⟩
      · -- the ticket and the claim are replaced, so those of the first round are gone
        cases n with
        | zero =>
          cases hcurrent
          simp [TokenRequest.current, hmet.meetingOf?_heard]
        | succ n => exact hcurrent
      · cases hfollows with
        | last hlength => exact .last (by simpa using hlength)
        | more hat hmeeting hlength =>
          exact .more (by simpa using hat) hmeeting (by simpa using hlength)

/-! ### The rounds of a run -/

/-- The nth round of a run. Under a configuration at fault there is one, and nothing is in it. -/
theorem Entry.round_of_play {σ : Type} (env : Environment σ) (c : Client) (request : TokenRequest)
    (s : σ) (entry : Entry) {n : Nat} {round : List Turn}
    (hround : (rounds (entry.play env c request s).trace)[n]? = some round) :
    (n = 0 ∧ round = [] ∧ (rounds (entry.play env c request s).trace).length = 1 ∧
        ∃ fault, (entry.play env c request s).result = .error (.setup (.config fault))) ∨
      ∃ current inner ending,
        request.current (rounds (entry.play env c request s).trace) n = some current ∧
        Round c entry.endpoint (entry.choice? c) (entry.budget c) (entry.budget c - n) current inner
          ending ∧
        round = heard inner ∧ n ≤ entry.budget c ∧
        Follows (rounds (entry.play env c request s).trace) (entry.play env c request s).result n
          ending := by
  obtain ⟨stage, inner, htrace, ⟨fault, rfl, hfault⟩ | hcourse⟩ :=
    entry.course_of_play env c request s
  · rw [htrace, rounds_framed] at hround ⊢
    cases n with
    | zero =>
      cases hround
      exact .inl ⟨rfl, rfl, rfl, fault, hfault⟩
    | succ n => cases hround
  · rw [htrace, rounds_framed] at hround ⊢
    exact .inr (hcourse.round_at hround)

end TicketGrant
