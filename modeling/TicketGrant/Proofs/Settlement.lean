import TicketGrant.Negotiation
import TicketGrant.Proofs.Conversation
import Mathlib.Tactic.SplitIfs

/-!
# Settlements

How a delivery settles a round: the rules, one for each class of answers, say what is said after
the delivery and how the round ends. The status decides before the code, the code before the
budget, and the budget before the ticket. The rules speak of codes and not of kinds, and no rule
looks at the request.
-/
namespace TicketGrant

open Http Dialogue

/-- How a round ends. -/
inductive Ending where
  /-- The negotiation is over. -/
  | ended (result : Except Failure Token)
  /-- The next round presents a claim with the ticket of the demand that it meets. -/
  | met (challenge : Challenge) (claim : ClaimToken)

/-- The failure that a result is, if it is one. -/
def failure? {α : Type} : Except Failure α → Option Failure
  | .ok _ => none
  | .error failure => some failure

theorem failure?_eq_some_iff {α : Type} {result : Except Failure α} {failure : Failure} :
    failure? result = some failure ↔ result = .error failure := by
  cases result <;> simp [failure?]

@[simp] theorem failure?_map {α β : Type} (f : α → β) (result : Except Failure α) :
    failure? (result.map f) = failure? result := by
  cases result <;> rfl

/-- The failure with which a round ends. -/
def Ending.failure? : Ending → Option Failure
  | .ended result => TicketGrant.failure? result
  | .met .. => none

/-- The error code in an answer. -/
def Client.codeIn (c : Client) (response : Response) : String :=
  (Refusal.ofBody c.codec response.body).code

/-- The description in an answer. -/
def Client.descriptionIn (c : Client) (response : Response) : Option String :=
  (Refusal.ofBody c.codec response.body).description

/-- An answer demands claims, with a ticket or without. -/
structure Client.NeedsInfo (c : Client) (response : Response) : Prop where
  isClientError : response.status.isClientError = true
  code : c.codeIn response = "need_info"

/-- An answer demands claims and brings a ticket. -/
structure Client.Demands (c : Client) (response : Response) (challenge : Challenge) : Prop
    extends c.NeedsInfo response where
  challenge : Challenge.ofBody? c.codec response.body (some response.status) = some challenge

/-- What is said to have a demand met, with some of the budget remaining. -/
def asking (remaining : Nat) (challenge : Challenge) (resolution : Resolution) : List Turn :=
  [.observed (.challenge remaining challenge.requiredClaims.length), .observed .round,
    .resolved challenge resolution]

/-- How a delivery settles a round, with some of the budget remaining. -/
inductive Settles (c : Client) (budget remaining : Nat) : Delivery → List Turn → Ending → Prop
  /-- No answer came. -/
  | undelivered {actions fault failure} :
      Settles c budget remaining ⟨actions, .error fault⟩
        [.explained (Flow.held actions) fault failure]
        (.ended (.error (.exchange (.transport failure ((Flow.held actions).bind (·.status))
          ((Flow.held actions).bind (·.retryAfter))))))
  /-- A token, whatever else the body says. -/
  | token {actions response now answer token} :
      response.status.isSuccess = true →
      c.codec.decode TokenAnswer.record.decode response.body = .ok answer →
      answer.token now c.config.scopeDelimiter = .ok token →
      Settles c budget remaining ⟨actions, .ok response⟩ [.told now] (.ended (.ok token))
  /-- A success that is no token answer. -/
  | unreadable {actions response now fault} :
      response.status.isSuccess = true →
      c.codec.decode TokenAnswer.record.decode response.body = .error fault →
      Settles c budget remaining ⟨actions, .ok response⟩ [.told now]
        (.ended (.error (.exchange (.unreadableToken fault (some response.status)))))
  /-- A token answer that is no token. -/
  | invalid {actions response now answer fault} :
      response.status.isSuccess = true →
      c.codec.decode TokenAnswer.record.decode response.body = .ok answer →
      answer.token now c.config.scopeDelimiter = .error fault →
      Settles c budget remaining ⟨actions, .ok response⟩ [.told now]
        (.ended (.error (.exchange (.invalidToken fault (some response.status)))))
  /-- Neither a success nor a client's error, whatever code the body has. -/
  | unexpected {actions response} :
      response.status.isSuccess = false → response.status.isClientError = false →
      Settles c budget remaining ⟨actions, .ok response⟩ []
        (.ended (.error (.exchange (.unexpectedStatus response.status (c.descriptionIn response)))))
  | invalidGrant {actions response} :
      response.status.isClientError = true → c.codeIn response = "invalid_grant" →
      Settles c budget remaining ⟨actions, .ok response⟩ []
        (.ended (.error (.invalidGrant (some response.status) (c.descriptionIn response))))
  | invalidScope {actions response} :
      response.status.isClientError = true → c.codeIn response = "invalid_scope" →
      Settles c budget remaining ⟨actions, .ok response⟩ []
        (.ended (.error (.invalidScope (some response.status) (c.descriptionIn response))))
  | denied {actions response} :
      response.status.isClientError = true → c.codeIn response = "request_denied" →
      Settles c budget remaining ⟨actions, .ok response⟩ []
        (.ended (.error (.denied (some response.status) (c.descriptionIn response))))
  /-- A client's error with any other code. -/
  | server {actions response} :
      response.status.isClientError = true →
      c.codeIn response ∉ ["invalid_grant", "invalid_scope", "request_denied", "need_info"] →
      Settles c budget remaining ⟨actions, .ok response⟩ []
        (.ended (.error (.exchange (.server (c.codeIn response) (c.descriptionIn response)
          (some response.status)))))
  /-- A demand for claims that comes too late, with a ticket or without. -/
  | exhausted {actions response} :
      response.status.isClientError = true → c.codeIn response = "need_info" → remaining = 0 →
      Settles c budget remaining ⟨actions, .ok response⟩ []
        (.ended (.error (.exhausted budget (some response.status) (c.descriptionIn response))))
  /-- A demand for claims without a ticket. -/
  | noTicket {actions response} :
      response.status.isClientError = true → c.codeIn response = "need_info" → remaining ≠ 0 →
      Challenge.ofBody? c.codec response.body (some response.status) = none →
      Settles c budget remaining ⟨actions, .ok response⟩ []
        (.ended (.error (.denied (some response.status)
          (some "need_info challenge carried no replacement ticket"))))
  /-- The resolver has nothing to offer. -/
  | unmet {actions response challenge} :
      c.Demands response challenge → remaining ≠ 0 →
      Settles c budget remaining ⟨actions, .ok response⟩ (asking remaining challenge .nothing)
        (.ended (.error (.denied (some response.status)
          (some "claim resolver produced no claim token"))))
  /-- The resolver refuses. -/
  | aborted {actions response challenge} {abort : Abort} :
      c.Demands response challenge → remaining ≠ 0 →
      Settles c budget remaining ⟨actions, .ok response⟩
        (asking remaining challenge (.abort abort))
        (.ended (.error (.denied (some response.status) (some abort.message))))
  /-- The resolver finds a claim. -/
  | met {actions response challenge claim} :
      c.Demands response challenge → remaining ≠ 0 →
      Settles c budget remaining ⟨actions, .ok response⟩
        (asking remaining challenge (.claim claim)) (.met challenge claim)

/-! ### The rules are those of the client -/

/-- The kind of a code, as a chain of comparisons. -/
theorem RefusalKind.ofCode_eq (code : String) :
    ofCode code =
      if code = "invalid_grant" then .invalidGrant
      else if code = "invalid_scope" then .invalidScope
      else if code = "need_info" then .needInfo
      else if code = "request_denied" then .requestDenied
      else if code = "use_dpop_nonce" then .useDpopNonce
      else .other code := by
  have hbeq (name : String) : (name == code) = decide (code = name) := by
    rw [Bool.eq_iff_iff, beq_iff_eq, decide_eq_true_iff, eq_comm]
  simp only [ofCode, known, RefusalKind.code, List.find?, hbeq]
  split_ifs <;> simp_all

namespace Client

/-- What a client's error means, read off its code. -/
theorem failure?_of_isClientError {c : Client} {response : Response}
    (h : response.status.isClientError = true) :
    (Refusal.ofBody c.codec response.body).failure? response.status =
      if c.codeIn response = "invalid_grant" then
        some (.invalidGrant (some response.status) (c.descriptionIn response))
      else if c.codeIn response = "invalid_scope" then
        some (.invalidScope (some response.status) (c.descriptionIn response))
      else if c.codeIn response = "need_info" then none
      else if c.codeIn response = "request_denied" then
        some (.denied (some response.status) (c.descriptionIn response))
      else some (.exchange (.server (c.codeIn response) (c.descriptionIn response)
        (some response.status))) := by
  rw [Refusal.failure?, h, Refusal.kind, RefusalKind.ofCode_eq]
  simp only [codeIn, descriptionIn]
  split_ifs <;> simp_all

/-- A nonce is demanded by the code of a client's error and by the first field for it. -/
theorem demandedNonce?_eq_some_iff {c : Client} {response : Response} {nonce : String} :
    c.demandedNonce? response = some nonce ↔
      response.status.isClientError = true ∧ c.codeIn response = "use_dpop_nonce" ∧
        ∃ value, fieldValue? response.headers "dpop-nonce" = some value ∧
          readable? value = some nonce := by
  have hkind : (Refusal.ofBody c.codec response.body).kind = .useDpopNonce ↔
      c.codeIn response = "use_dpop_nonce" := by
    rw [Refusal.kind, RefusalKind.ofCode_eq, codeIn]
    split_ifs <;> simp_all
  simp only [demandedNonce?, hkind, Option.bind_eq_bind, Option.bind_eq_some_iff,
    Option.ite_none_right_eq_some, Option.some.injEq]
  constructor
  · rintro ⟨value, hvalue, _, hreadable, ⟨hclient, hcode⟩, rfl⟩
    exact ⟨hclient, hcode, value, hvalue, hreadable⟩
  · rintro ⟨hclient, hcode, value, hvalue, hreadable⟩
    exact ⟨value, hvalue, nonce, hreadable, ⟨hclient, hcode⟩, rfl⟩

/-- What a round does with the answer to its request; `next` is the rest of the negotiation. -/
def settle (c : Client) (budget : Nat) (request : TokenRequest)
    (next : Nat → TokenRequest → Flow Token) (response : Response) (remaining : Nat) : Flow Token :=
  if response.status.isSuccess then do
    let now ← Flow.now
    Flow.ofExcept .exchange (c.tokenIn response now)
  else
    match (Refusal.ofBody c.codec response.body).failure? response.status with
    | some failure => throw failure
    | none =>
      match remaining with
      | 0 => throw (.exhausted budget (some response.status) (c.descriptionIn response))
      | left + 1 => do
        let challenge ← Flow.ofExcept id (c.challengeIn response)
        let claim ← meet (left + 1) challenge
        next left (request.nextRound challenge.ticket claim)

theorem rounds_eq (c : Client) (endpoint : Url) (choice : Option Binding.Choice)
    (budget remaining : Nat) (request : TokenRequest) :
    c.rounds endpoint choice budget remaining request =
      c.exchange endpoint choice request >>= fun response =>
        c.settle budget request (c.rounds endpoint choice budget) response remaining := by
  rw [rounds.eq_def]; rfl

section Rules
variable {c : Client} {budget remaining : Nat} {request : TokenRequest}
  {next : Nat → TokenRequest → Flow Token} {actions : List Slot.Action} {response : Response}
  {turns : List Turn} {r : Except Failure Token}

theorem settle_of_isSuccess (h : response.status.isSuccess = true) :
    c.settle budget request next response remaining =
      Flow.now >>= fun now => Flow.ofExcept .exchange (c.tokenIn response now) := by
  rw [settle.eq_def, if_pos h]

theorem settle_of_failure {failure : Failure} (h : response.status.isSuccess = false)
    (hfailure : (Refusal.ofBody c.codec response.body).failure? response.status = some failure) :
    c.settle budget request next response remaining = throw failure := by
  rw [settle.eq_def, if_neg (by simp [h]), hfailure]

theorem settle_of_demand (h : response.status.isClientError = true)
    (hcode : c.codeIn response = "need_info") :
    c.settle budget request next response remaining =
      match remaining with
      | 0 => throw (.exhausted budget (some response.status) (c.descriptionIn response))
      | left + 1 =>
        Flow.ofExcept id (c.challengeIn response) >>= fun challenge =>
          meet (left + 1) challenge >>= fun claim =>
            next left (request.nextRound challenge.ticket claim) := by
  have hsuccess := Status.not_isSuccess_of_isClientError h
  have hfailure : (Refusal.ofBody c.codec response.body).failure? response.status = none := by
    rw [failure?_of_isClientError h, hcode]; rfl
  rw [settle.eq_def, if_neg (by simp [hsuccess]), hfailure]

theorem tokenIn_eq (c : Client) (response : Response) (now : Instant) :
    c.tokenIn response now =
      match c.codec.decode TokenAnswer.record.decode response.body with
      | .error fault => .error (.unreadableToken fault (some response.status))
      | .ok answer => (answer.token now c.config.scopeDelimiter).mapError
          (.invalidToken · (some response.status)) := by
  rw [tokenIn]
  cases c.codec.decode TokenAnswer.record.decode response.body <;> rfl

theorem utters_meet_iff {challenge : Challenge} {r : Except Failure ClaimToken} :
    (meet remaining challenge).Utters turns r ↔
      ∃ resolution, turns = asking remaining challenge resolution ∧
        r = resolution.claimToken challenge.status := by
  simp only [meet, Flow.utters_observe_bind_iff, Flow.utters_resolve_bind_iff,
    Flow.utters_ofExcept_iff]
  constructor
  · rintro ⟨_, rfl, _, rfl, resolution, _, rfl, rfl, rfl⟩
    refine ⟨resolution, rfl, ?_⟩
    cases resolution.claimToken challenge.status <;> rfl
  · rintro ⟨resolution, rfl, rfl⟩
    refine ⟨_, rfl, _, rfl, resolution, [], rfl, rfl, ?_⟩
    cases resolution.claimToken challenge.status <;> rfl

/-- A demand in time: it lacks a ticket, or the resolver is asked, and a claim goes on. -/
theorem utters_settle_of_demand_iff (h : response.status.isClientError = true)
    (hcode : c.codeIn response = "need_info") {left : Nat} :
    (c.settle budget request next response (left + 1)).Utters turns r ↔
      (Challenge.ofBody? c.codec response.body (some response.status) = none ∧ turns = [] ∧
        r = .error (.denied (some response.status)
          (some "need_info challenge carried no replacement ticket"))) ∨
      ∃ challenge resolution rest,
        Challenge.ofBody? c.codec response.body (some response.status) = some challenge ∧
        turns = asking (left + 1) challenge resolution ++ rest ∧
        match resolution.claimToken (some response.status) with
        | .error failure => rest = [] ∧ r = .error failure
        | .ok claim => (next left (request.nextRound challenge.ticket claim)).Utters rest r := by
  rw [settle_of_demand h hcode, Flow.utters_ofExcept_bind_iff, challengeIn]
  cases hbody : Challenge.ofBody? c.codec response.body (some response.status) with
  | none =>
    constructor
    · rintro (⟨_, hfault, rfl, rfl⟩ | ⟨_, hfault, _⟩)
      · cases hfault; exact .inl ⟨rfl, rfl, rfl⟩
      · cases hfault
    · rintro (⟨-, rfl, rfl⟩ | ⟨_, _, _, hbody, _⟩)
      · exact .inl ⟨_, rfl, rfl, rfl⟩
      · cases hbody
  | some challenge =>
    have hstatus := (Challenge.of_ofBody? hbody).1
    simp only [Flow.utters_bind_iff, utters_meet_iff]
    constructor
    · rintro (⟨_, hfault, _⟩ | ⟨_, hfault, h⟩)
      · cases hfault
      · cases hfault
        rcases h with ⟨failure, ⟨resolution, rfl, hr⟩, rfl⟩ |
          ⟨claim, _, rest, rfl, ⟨resolution, rfl, hr⟩, h⟩
        · exact .inr ⟨challenge, resolution, [], rfl, by simp,
            by rw [← hstatus, ← hr]; exact ⟨rfl, rfl⟩⟩
        · exact .inr ⟨challenge, resolution, rest, rfl, rfl,
            by rw [← hstatus, ← hr]; exact h⟩
    · rintro (⟨hbody, _⟩ | ⟨_, resolution, rest, hbody, rfl, h⟩)
      · cases hbody
      · cases hbody
        refine .inr ⟨challenge, rfl, ?_⟩
        rw [← hstatus] at h
        cases hr : resolution.claimToken challenge.status with
        | error failure =>
          rw [hr] at h
          obtain ⟨rfl, rfl⟩ := h
          exact .inl ⟨failure, ⟨resolution, by simp, hr.symm⟩, rfl⟩
        | ok claim =>
          rw [hr] at h
          exact .inr ⟨claim, _, rest, rfl, ⟨resolution, rfl, hr.symm⟩, h⟩

/-- An answer that is no success and no demand ends the negotiation at once. -/
theorem utters_settle_of_failure_iff {failure : Failure} (h : response.status.isSuccess = false)
    (hfailure : (Refusal.ofBody c.codec response.body).failure? response.status = some failure) :
    (c.settle budget request next response remaining).Utters turns r ↔
      turns = [] ∧ r = .error failure := by
  rw [settle_of_failure h hfailure, Flow.utters_throw_iff]

/-- A success is a token, or is no token answer, or no token. -/
theorem settles_tokenIn (hsuccess : response.status.isSuccess = true) (now : Instant) :
    Settles c budget remaining ⟨actions, .ok response⟩ [.told now]
      (.ended ((c.tokenIn response now).mapError .exchange)) := by
  rw [tokenIn_eq]
  split
  · rename_i fault hread
    exact .unreadable hsuccess hread
  · rename_i answer hread
    cases htoken : answer.token now c.config.scopeDelimiter with
    | error fault => exact .invalid hsuccess hread htoken
    | ok token => exact .token hsuccess hread htoken

theorem settles_of_isSuccess (hsuccess : response.status.isSuccess = true)
    (h : (c.settle budget request next response remaining).Utters turns r) :
    Settles c budget remaining ⟨actions, .ok response⟩ turns (.ended r) := by
  rw [settle_of_isSuccess hsuccess, Flow.utters_now_bind_iff] at h
  obtain ⟨now, _, rfl, rfl, rfl⟩ := h
  exact settles_tokenIn hsuccess now

/-- A demand comes too late, or lacks a ticket, or the resolver answers it. -/
theorem settles_of_demand (hclient : response.status.isClientError = true)
    (hcode : c.codeIn response = "need_info")
    (h : (c.settle budget request next response remaining).Utters turns r) :
    Settles c budget remaining ⟨actions, .ok response⟩ turns (.ended r) ∨
      ∃ left challenge claim first rest, remaining = left + 1 ∧ turns = first ++ rest ∧
        Settles c budget remaining ⟨actions, .ok response⟩ first (.met challenge claim) ∧
        (next left (request.nextRound challenge.ticket claim)).Utters rest r := by
  cases remaining with
  | zero =>
    rw [settle_of_demand hclient hcode, Flow.utters_throw_iff] at h
    obtain ⟨rfl, rfl⟩ := h
    exact .inl (.exhausted hclient hcode rfl)
  | succ left =>
    rw [utters_settle_of_demand_iff hclient hcode] at h
    rcases h with ⟨hbody, rfl, rfl⟩ | ⟨challenge, resolution, rest, hbody, rfl, h⟩
    · exact .inl (.noTicket hclient hcode (by simp) hbody)
    · have hdemand : c.Demands response challenge := ⟨⟨hclient, hcode⟩, hbody⟩
      cases resolution with
      | claim claim =>
        exact .inr ⟨left, challenge, claim, _, rest, rfl, rfl, .met hdemand (by simp), h⟩
      | nothing =>
        obtain ⟨rfl, rfl⟩ := h
        exact .inl (by simpa using .unmet hdemand (by simp))
      | abort abort =>
        obtain ⟨rfl, rfl⟩ := h
        exact .inl (by simpa using .aborted hdemand (by simp))

/-- What a round does with an answer follows the rules. -/
theorem settles_of_utters (h : (c.settle budget request next response remaining).Utters turns r) :
    Settles c budget remaining ⟨actions, .ok response⟩ turns (.ended r) ∨
      ∃ left challenge claim first rest, remaining = left + 1 ∧ turns = first ++ rest ∧
        Settles c budget remaining ⟨actions, .ok response⟩ first (.met challenge claim) ∧
        (next left (request.nextRound challenge.ticket claim)).Utters rest r := by
  by_cases hsuccess : response.status.isSuccess = true
  · exact .inl (settles_of_isSuccess hsuccess h)
  rw [Bool.not_eq_true] at hsuccess
  by_cases hclient : response.status.isClientError = true
  · have hfailure := failure?_of_isClientError (c := c) hclient
    split_ifs at hfailure with h₁ h₂ h₃ h₄
    · obtain ⟨rfl, rfl⟩ := (utters_settle_of_failure_iff hsuccess hfailure).mp h
      exact .inl (.invalidGrant hclient h₁)
    · obtain ⟨rfl, rfl⟩ := (utters_settle_of_failure_iff hsuccess hfailure).mp h
      exact .inl (.invalidScope hclient h₂)
    · exact settles_of_demand hclient h₃ h
    · obtain ⟨rfl, rfl⟩ := (utters_settle_of_failure_iff hsuccess hfailure).mp h
      exact .inl (.denied hclient h₄)
    · obtain ⟨rfl, rfl⟩ := (utters_settle_of_failure_iff hsuccess hfailure).mp h
      exact .inl (.server hclient (by simp [h₁, h₂, h₃, h₄]))
  · rw [Bool.not_eq_true] at hclient
    have hfailure : (Refusal.ofBody c.codec response.body).failure? response.status =
        some (.exchange (.unexpectedStatus response.status (c.descriptionIn response))) := by
      rw [Refusal.failure?, hclient]; rfl
    obtain ⟨rfl, rfl⟩ := (utters_settle_of_failure_iff hsuccess hfailure).mp h
    exact .inl (.unexpected hsuccess hclient)

/-- A rule that ends the negotiation is followed. -/
theorem utters_of_settles_ended
    (h : Settles c budget remaining ⟨actions, .ok response⟩ turns (.ended r)) :
    (c.settle budget request next response remaining).Utters turns r := by
  cases h with
  | token hs hread htoken =>
    rw [settle_of_isSuccess hs, Flow.utters_now_bind_iff]
    exact ⟨_, [], rfl, rfl, by rw [tokenIn_eq, hread]; simp only [htoken]; rfl⟩
  | unreadable hs hread =>
    rw [settle_of_isSuccess hs, Flow.utters_now_bind_iff]
    exact ⟨_, [], rfl, rfl, by rw [tokenIn_eq, hread]; rfl⟩
  | invalid hs hread hfault =>
    rw [settle_of_isSuccess hs, Flow.utters_now_bind_iff]
    exact ⟨_, [], rfl, rfl, by rw [tokenIn_eq, hread]; simp only [hfault]; rfl⟩
  | unexpected hs hc =>
    exact (utters_settle_of_failure_iff hs (by rw [Refusal.failure?, hc]; rfl)).mpr ⟨rfl, rfl⟩
  | invalidGrant hc hcode | invalidScope hc hcode | denied hc hcode =>
    have hsuccess := Status.not_isSuccess_of_isClientError hc
    refine (utters_settle_of_failure_iff hsuccess ?_).mpr ⟨rfl, rfl⟩
    rw [failure?_of_isClientError hc, hcode]; rfl
  | server hc hcode =>
    have hsuccess := Status.not_isSuccess_of_isClientError hc
    refine (utters_settle_of_failure_iff hsuccess ?_).mpr ⟨rfl, rfl⟩
    simp only [List.mem_cons, not_or] at hcode
    rw [failure?_of_isClientError hc]
    simp [hcode]
  | exhausted hc hcode hzero =>
    subst hzero
    rw [settle_of_demand hc hcode]
    exact ⟨rfl, rfl⟩
  | noTicket hc hcode hpos hbody =>
    obtain ⟨left, rfl⟩ := Nat.exists_eq_succ_of_ne_zero hpos
    exact (utters_settle_of_demand_iff hc hcode).mpr (.inl ⟨hbody, rfl, rfl⟩)
  | unmet hd hpos =>
    obtain ⟨left, rfl⟩ := Nat.exists_eq_succ_of_ne_zero hpos
    exact (utters_settle_of_demand_iff hd.isClientError hd.code).mpr
      (.inr ⟨_, .nothing, [], hd.challenge, by simp, rfl, rfl⟩)
  | aborted hd hpos =>
    obtain ⟨left, rfl⟩ := Nat.exists_eq_succ_of_ne_zero hpos
    exact (utters_settle_of_demand_iff hd.isClientError hd.code).mpr
      (.inr ⟨_, .abort _, [], hd.challenge, by simp, rfl, rfl⟩)

/-- A rule that leads to another round is followed. -/
theorem utters_of_settles_met {left : Nat} {challenge : Challenge} {claim : ClaimToken}
    {rest : List Turn}
    (h : Settles c budget (left + 1) ⟨actions, .ok response⟩ turns (.met challenge claim))
    (hnext : (next left (request.nextRound challenge.ticket claim)).Utters rest r) :
    (c.settle budget request next response (left + 1)).Utters (turns ++ rest) r := by
  cases h with
  | met hd _ =>
    exact (utters_settle_of_demand_iff hd.isClientError hd.code).mpr
      (.inr ⟨_, .claim claim, rest, hd.challenge, rfl, hnext⟩)

end Rules

end Client
end TicketGrant
