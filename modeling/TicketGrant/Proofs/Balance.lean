import TicketGrant.Proofs.Reports
import TicketGrant.Proofs.Secrecy

/-!
# Balanced sessions

What the counters tell behind any number of calls. The attempts of each kind of flow are its
successes and its failures, since every call is balanced. The counter of nonces goes with the
requests: it rises by one for each token request that is sent again (`Course.growth_nonceRetries`).
It rises before the proof of that request is signed, so it is one ahead where there is no signature.
-/
namespace TicketGrant

open Http Dialogue Trace

/-! ### Token requests that are sent again -/

/-- The token requests in a trace. -/
def Trace.tokenRequests (trace : List Turn) : List (Request × Delivery) :=
  (sendings trace).filter (·.1.method = .post)

/-- The token requests in each round of a trace. -/
def Trace.tokenRounds (trace : List Turn) : List (List (Request × Delivery)) :=
  (rounds trace).map tokenRequests

/-- The token requests that were sent again, in the same round. -/
def Trace.resent (trace : List Turn) : List (Request × Delivery) :=
  (tokenRounds trace).flatMap (·.drop 1)

/-- One of these requests was sent, and then a proof could not be signed. -/
def isUnsigned (failed : Option Failure) (requests : List (Request × Delivery)) : Bool :=
  !requests.isEmpty && failed = some (.signing .noSignature)

/-- The proof of a request that was to be sent again could not be signed. -/
def Trace.isStranded (failed : Option Failure) (trace : List Turn) : Bool :=
  (tokenRounds trace).getLast?.any (isUnsigned failed)

section Traces
variable {xs : List Turn} {failed : Option Failure}

theorem isUnsigned_none {requests : List (Request × Delivery)} :
    isUnsigned none requests = false := Bool.and_false _

@[simp] theorem Trace.tokenRequests_append (xs ys : List Turn) :
    tokenRequests (xs ++ ys) = tokenRequests xs ++ tokenRequests ys := by
  rw [tokenRequests, sendings_append, List.filter_append, tokenRequests, tokenRequests]

@[simp] theorem Trace.tokenRequests_heard (xs : List Turn) :
    tokenRequests (heard xs) = tokenRequests xs := by
  rw [tokenRequests, sendings_heard, tokenRequests]

/-- What is said before the first token request and the first claim does not count. -/
theorem Trace.tokenRounds_append (hmeetings : meetings xs = []) (hnone : tokenRequests xs = [])
    (ys : List Turn) : tokenRounds (xs ++ ys) = tokenRounds ys := by
  rw [tokenRounds, rounds_append hmeetings, tokenRounds]
  cases h : rounds ys with
  | nil => exact absurd h (rounds_ne_nil ys)
  | cons first more =>
    rw [List.modifyHead_cons, List.map_cons, List.map_cons, tokenRequests_append,
      tokenRequests_heard, hnone, List.nil_append]

theorem Trace.tokenRounds_eq_singleton (hmeetings : meetings xs = []) :
    tokenRounds xs = [tokenRequests xs] := by
  rw [tokenRounds, rounds_eq_singleton hmeetings, List.map_singleton, tokenRequests_heard]

theorem Trace.length_resent_of_singleton (hmeetings : meetings xs = []) :
    (resent xs).length = ((tokenRequests xs).drop 1).length := by
  rw [resent, tokenRounds_eq_singleton hmeetings, List.flatMap_singleton]

end Traces

section Courses
variable {c : Client} {endpoint : Url} {choice : Option Binding.Choice} {request : TokenRequest}
  {nonce : Option String} {turns after : List Turn} {budget remaining : Nat} {ending : Ending}

theorem Sends.tokenRequests_eq {outcome : Except Failure (Request × Delivery)}
    (h : Sends c endpoint choice request nonce turns outcome) :
    tokenRequests turns = outcome.toOption.toList := by
  rw [tokenRequests, h.sendings_eq]
  cases h <;> rfl

theorem Settles.tokenRequests_eq_nil {delivery : Delivery}
    (h : Settles c budget remaining delivery after ending) : tokenRequests after = [] := by
  rw [tokenRequests, h.sendings_eq_nil]
  rfl

theorem Settles.growth_nonceRetries {delivery : Delivery}
    (h : Settles c budget remaining delivery after ending) :
    Counter.nonceRetries.growth after = 0 := by
  cases h <;> rfl

/-- An exchange counts the request that it sends again, or could not sign. -/
theorem Exchanges.growth_nonceRetries {outcome : Except Failure Delivery}
    (h : Exchanges c endpoint choice request turns outcome) :
    Counter.nonceRetries.growth turns = ((tokenRequests turns).drop 1).length +
      (isUnsigned (failure? outcome) (tokenRequests turns)).toNat := by
  cases h with
  | unsent hfirst =>
    rw [Counter.growth_eq_zero _ hfirst.observations_eq_nil, hfirst.tokenRequests_eq]
    rfl
  | once hfirst =>
    rw [Counter.growth_eq_zero _ hfirst.observations_eq_nil, hfirst.tokenRequests_eq]
    rfl
  | @again first sending used nonce second outcome hfirst _ hsecond =>
    have hrequests : tokenRequests (first ++ .observed (.resend used.algorithm) ::
        .observed (.nonceRetry used.algorithm) :: second) =
          sending :: outcome.toOption.toList := by
      rw [tokenRequests_append, hfirst.tokenRequests_eq]
      exact congrArg (sending :: ·) hsecond.tokenRequests_eq
    rw [Counter.growth, hfirst.observations_again hsecond, hrequests]
    cases outcome with
    | ok => rfl
    | error failure =>
      -- what could be sent once can only lack a signature
      rw [hfirst.fault_of_again hsecond]
      rfl

theorem Round.growth_nonceRetries
    (h : Round c endpoint choice budget remaining request turns ending) :
    Counter.nonceRetries.growth turns = ((tokenRequests turns).drop 1).length +
      (isUnsigned ending.failure? (tokenRequests turns)).toNat := by
  cases h with
  | unsent hx => exact hx.growth_nonceRetries
  | settled hx hsettles =>
    -- what settles a round is no proof that could not be signed
    have hsigned (requests) : isUnsigned ending.failure? requests = false := by
      cases ending with
      | met => exact isUnsigned_none
      | ended result =>
        have hne : failure? result ≠ some (.signing .noSignature) := fun heq =>
          hsettles.ne_signing (failure?_eq_some_iff.mp heq)
        rw [Ending.failure?, isUnsigned, decide_eq_false hne, Bool.and_false]
    rw [Counter.growth_append, hx.growth_nonceRetries, hsettles.growth_nonceRetries,
      tokenRequests_append, hsettles.tokenRequests_eq_nil, List.append_nil, hsigned]
    rw [failure?, isUnsigned_none]
    rfl

/-- A negotiation counts what it sends again. -/
theorem Course.growth_nonceRetries {result : Except Failure Token}
    (h : Course c endpoint choice budget remaining request turns result) :
    Counter.nonceRetries.growth turns =
      (resent turns).length + (isStranded (failure? result) turns).toNat := by
  induction h with
  | last hlast =>
    have hmeetings := hlast.meetings_of_ended
    rw [hlast.growth_nonceRetries, length_resent_of_singleton hmeetings, isStranded,
      tokenRounds_eq_singleton hmeetings]
    rfl
  | @more left request first challenge claim rest result hmet _ ih =>
    have hrounds : tokenRounds (first ++ rest) = tokenRequests first :: tokenRounds rest := by
      rw [tokenRounds, hmet.rounds_append, List.map_cons, tokenRequests_heard, tokenRounds]
    have hresent : (resent (first ++ rest)).length =
        ((tokenRequests first).drop 1).length + (resent rest).length := by
      rw [resent, hrounds, List.flatMap_cons, List.length_append, resent]
    -- the last round is one of the rest, and what goes on has lost no signature
    have hstranded : isStranded (failure? result) (first ++ rest) =
        isStranded (failure? result) rest := by
      have hrest : tokenRounds rest ≠ [] := fun h =>
        rounds_ne_nil rest (List.map_eq_nil_iff.mp h)
      rw [isStranded, hrounds, List.getLast?_cons_of_ne_nil hrest, isStranded]
    rw [Counter.growth_append, hmet.growth_nonceRetries, ih, hresent, hstranded, Ending.failure?,
      isUnsigned_none, Bool.toNat_false, Nat.add_zero, Nat.add_assoc]

end Courses

/-! ### Calls -/

namespace Trace

/-- The counter of nonces tells how many token requests were sent again, and is one ahead if the
last of them could not be signed. -/
def CountsResent (failed : Option Failure) (trace : List Turn) : Prop :=
  Counter.nonceRetries.growth trace = (resent trace).length + (isStranded failed trace).toNat

/-- Turns from before a negotiation. -/
structure Preliminary (turns : List Turn) : Prop where
  meetings : meetings turns = []
  requests : tokenRequests turns = []
  growth : Counter.nonceRetries.growth turns = 0

variable {xs ys : List Turn} {failed : Option Failure}

theorem Preliminary.tokenRounds_append (h : Preliminary xs) (ys : List Turn) :
    tokenRounds (xs ++ ys) = tokenRounds ys :=
  Trace.tokenRounds_append h.meetings h.requests ys

theorem Preliminary.isStranded_append (h : Preliminary xs) (ys : List Turn) :
    isStranded failed (xs ++ ys) = isStranded failed ys := by
  rw [isStranded, h.tokenRounds_append, isStranded]

theorem Preliminary.isStranded_eq_false (h : Preliminary xs) : isStranded failed xs = false := by
  rw [← List.append_nil xs, h.isStranded_append]
  rfl

theorem CountsResent.behind (hy : CountsResent failed ys) (hx : Preliminary xs) :
    CountsResent failed (xs ++ ys) := by
  rw [CountsResent, Counter.growth_append, hx.growth, Nat.zero_add, hy, hx.isStranded_append,
    resent, resent, hx.tokenRounds_append]

theorem Preliminary.countsResent (h : Preliminary xs) : CountsResent failed xs := by
  have hnil : CountsResent failed [] := rfl
  rw [← List.append_nil xs]
  exact hnil.behind h

theorem failed_of_isStranded {trace : List Turn} (h : isStranded failed trace = true) :
    failed = some (.signing .noSignature) := by
  rw [isStranded, Option.any_eq_true] at h
  obtain ⟨requests, -, hunsigned⟩ := h
  exact of_decide_eq_true (Bool.and_elim_right hunsigned)

end Trace

section Calls
variable {σ : Type} (env : Environment σ) (c : Client) (s : σ)

/-- Whether a play ends because the proof of a request could not be signed that was to be sent
again. -/
def Dialogue.Played.isStranded {α : Type} (p : Played σ (Except Failure α)) : Bool :=
  Trace.isStranded (failure? p.result) p.trace

theorem Client.preliminary_discover (server : Url) :
    Preliminary (c.discover env server s).trace := by
  obtain ⟨inner, htrace, hdiscovers⟩ := c.discovers_discover env server s
  rw [htrace]
  refine ⟨?_, ?_, ?_⟩
  · rw [meetings_framed, meetings_eq_nil_of_resolutions hdiscovers.resolutions_eq_nil]
  · rw [tokenRequests, sendings_framed, List.filter_eq_nil_iff]
    intro sending hmem
    obtain ⟨target, hrequest⟩ := hdiscovers.eq_metadataRequest hmem
    rw [hrequest]
    exact Bool.false_ne_true
  · rw [Counter.growth_framed fun _ _ => rfl,
      Counter.growth_eq_zero _ hdiscovers.observations_eq_nil]

theorem Entry.countsResent_play (request : TokenRequest) (entry : Entry) :
    CountsResent (failure? (entry.play env c request s).result)
      (entry.play env c request s).trace := by
  obtain ⟨stage, inner, htrace, hinner⟩ := entry.course_of_play env c request s
  rw [CountsResent, htrace, Counter.growth_framed fun _ _ => rfl, resent, isStranded, tokenRounds,
    rounds_framed]
  rcases hinner with ⟨_, rfl, -⟩ | hcourse
  · rfl
  · exact hcourse.growth_nonceRetries

/-- What the counters tell of a call. -/
structure Call.Accounts (call : Call) (p : Played σ (Except Failure Reply)) : Prop where
  reported : call.Reported env c s p
  retries : CountsResent (failure? p.result) p.trace
  stranded : p.isStranded = true → c.LacksSignature

theorem Call.countsResent_play (call : Call) :
    CountsResent (failure? (call.play env c s).result) (call.play env c s).trace := by
  refine call.holds_play ?_ ?_ ?_ ?_ s
  · intro server s
    exact (c.preliminary_discover env s server).countsResent
  · intro entry request s
    exact entry.countsResent_play env c s request
  · intro server s metadata _
    exact (c.preliminary_discover env s server).countsResent
  · intro server s metadata failed trace _ htrace
    exact htrace.behind (c.preliminary_discover env s server)

theorem Call.lacksSignature_of_isStranded {call : Call}
    (h : (call.play env c s).isStranded = true) : c.LacksSignature := by
  revert h
  refine call.holds_play (P := fun failed trace => isStranded failed trace = true → _)
    ?_ ?_ ?_ ?_ s
  · intro server s h
    cases (c.preliminary_discover env s server).isStranded_eq_false.symm.trans h
  · intro entry request s h
    exact Entry.lacksSignature_of_unsigned (failure?_eq_some_iff.mp (failed_of_isStranded h))
  · intro server s metadata _ h
    cases (c.preliminary_discover env s server).isStranded_eq_false.symm.trans h
  · intro server s metadata failed trace _ htrace h
    rw [(c.preliminary_discover env s server).isStranded_append] at h
    exact htrace h

theorem Call.accounts_play (call : Call) : call.Accounts env c s (call.play env c s) :=
  ⟨call.reported_play env c s, call.countsResent_play env c s,
    call.lacksSignature_of_isStranded env c s⟩

end Calls

/-! ### Sessions -/

section Sessions
variable {σ : Type} {plays : List (Played σ (Except Failure Reply))}

theorem Session.balanced_trace (h : ∀ p ∈ plays, Counter.Balanced p.trace) :
    Counter.Balanced (trace plays) := by
  induction plays with
  | nil => exact fun _ => rfl
  | cons p rest ih =>
    obtain ⟨hp, hrest⟩ := List.forall_mem_cons.mp h
    rw [trace, List.flatMap_cons]
    exact hp.append (ih hrest)

theorem Session.growth_nonceRetries
    (h : ∀ p ∈ plays, CountsResent (failure? p.result) p.trace) :
    Counter.nonceRetries.growth (trace plays) =
      (plays.flatMap fun p => resent p.trace).length + plays.countP (·.isStranded) := by
  induction plays with
  | nil => rfl
  | cons p rest ih =>
    obtain ⟨hp, hrest⟩ := List.forall_mem_cons.mp h
    have hmore := ih hrest
    rw [CountsResent] at hp
    rw [trace, List.flatMap_cons, Counter.growth_append, hp, ← trace, hmore, List.flatMap_cons,
      List.length_append, List.countP_cons, Played.isStranded]
    cases Trace.isStranded (failure? p.result) p.trace <;> simp <;> omega

/-- What the counters tell of the plays of some calls. -/
structure Session.Accounts (calls : List (Client × Call))
    (plays : List (Played σ (Except Failure Reply))) : Prop where
  balanced : ∀ kind, (Counter.flows kind .attempt).growth (trace plays) =
    (Counter.flows kind .success).growth (trace plays) +
      (Counter.flows kind .failure).growth (trace plays)
  retries : Counter.nonceRetries.growth (trace plays) =
    (plays.flatMap fun p => resent p.trace).length + plays.countP (·.isStranded)
  stranded : ∀ p ∈ plays, p.isStranded = true → ∃ made ∈ calls, made.1.LacksSignature

end Sessions

end TicketGrant
