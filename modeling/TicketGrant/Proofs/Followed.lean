import TicketGrant.Proofs.Rounds

/-!
# Courses that are followed

Whatever the rules of courses allow, a client does if it is answered so. Each relation is followed
by its flow, from one request to a whole negotiation; so the courses are exactly what a negotiation
can say (`Client.utters_rounds_iff`), and a run is known once there is a course with answers that
the environment gives (`Client.negotiation_run_iff`).
-/
namespace TicketGrant

open Http Dialogue

/-- What is said after requests that came to a delivery, or to none, and what becomes of it. -/
inductive Concludes : Except Failure Delivery → List Turn → Except Failure Response → Prop
  | unsent {failure} : Concludes (.error failure) [] (.error failure)
  | delivered {delivery after r} : Delivered delivery after r → Concludes (.ok delivery) after r

namespace Client
variable {c : Client} {endpoint : Url} {choice : Option Binding.Choice} {request : TokenRequest}
  {nonce : Option String} {turns after : List Turn}

/-! ### Requests -/

theorem utters_proof_of_proves {text : Option String} (h : Proves endpoint choice nonce turns text) :
    (proof endpoint choice nonce).Utters turns (.ok text) := by
  cases h with
  | unbound => exact ⟨rfl, rfl⟩
  | bound hprove =>
    simp only [proof, Flow.utters_draw_bind_iff, Flow.utters_now_bind_iff,
      Flow.utters_ofExcept_bind_iff]
    exact ⟨_, _, rfl, _, _, rfl, .inr ⟨_, hprove, rfl, rfl⟩⟩

theorem utters_sendOnce {outcome : Except Failure (Request × Delivery)}
    {r : Except Failure Response} (h : Sends c endpoint choice request nonce turns outcome)
    (hconcludes : Concludes (outcome.map Prod.snd) after r) :
    (c.sendOnce endpoint choice request nonce).Utters (turns ++ after) r := by
  rw [sendOnce, Flow.utters_bind_iff]
  cases h with
  | unsigned hchoice hfault =>
    subst hchoice
    cases hconcludes
    refine .inl ⟨_, ?_, rfl⟩
    simp only [proof, Flow.utters_draw_bind_iff, Flow.utters_now_bind_iff,
      Flow.utters_ofExcept_bind_iff]
    exact ⟨_, _, rfl, _, _, rfl, .inl ⟨_, hfault, rfl, rfl⟩⟩
  | unbuilt hproof hfault =>
    cases hconcludes
    exact .inr ⟨_, _, [], rfl, utters_proof_of_proves hproof,
      Flow.utters_ofExcept_bind_iff.mpr (.inl ⟨_, hfault, rfl, rfl⟩)⟩
  | sent hproof htarget =>
    refine .inr ⟨_, _, _, List.append_assoc .., utters_proof_of_proves hproof,
      Flow.utters_ofExcept_bind_iff.mpr (.inr ⟨_, htarget, ?_⟩)⟩
    rw [checked_of_proves hproof, Flow.utters_ofExcept_bind_iff]
    refine .inr ⟨_, rfl, Flow.utters_lift_bind_iff.mpr ?_⟩
    cases hconcludes with
    | delivered hdelivered =>
      cases hdelivered with
      | answered =>
        exact ⟨_, _, [], rfl, Flow.utters_send_iff.mpr (.inl ⟨_, _, rfl, rfl⟩), rfl, rfl⟩
      | undelivered =>
        exact ⟨_, _, [], rfl, Flow.utters_send_iff.mpr (.inr ⟨_, _, _, rfl, rfl⟩), rfl, rfl⟩

theorem utters_exchange {outcome : Except Failure Delivery} {r : Except Failure Response}
    (h : Exchanges c endpoint choice request turns outcome) (hconcludes : Concludes outcome after r) :
    (c.exchange endpoint choice request).Utters (turns ++ after) r := by
  rw [exchange, Flow.utters_bind_iff]
  cases h with
  | unsent hfirst =>
    cases hconcludes
    exact .inl ⟨_, utters_sendOnce hfirst .unsent, rfl⟩
  | @once _ sending hfirst hnone =>
    obtain ⟨sent, delivery⟩ := sending
    cases hconcludes with
    | delivered hdelivered =>
      have hsent := utters_sendOnce hfirst (.delivered hdelivered)
      cases hdelivered with
      | undelivered => exact .inl ⟨_, hsent, rfl⟩
      | answered =>
        refine .inr ⟨_, _, [], (List.append_nil _).symm, hsent, ?_⟩
        split
        · rename_i used nonce hdemanded
          exact absurd ⟨rfl, _, rfl, hdemanded⟩ (hnone used nonce)
        · exact ⟨rfl, rfl⟩
  | @again first sending used nonce second _ hfirst hdemands hsecond =>
    obtain ⟨sent, actions, answer⟩ := sending
    obtain ⟨rfl, response, rfl, hdemanded⟩ := hdemands
    have hsent := utters_sendOnce hfirst (.delivered .answered)
    rw [List.append_nil] at hsent
    refine .inr ⟨response, first, _, List.append_assoc .., hsent, ?_⟩
    simp only [hdemanded, Flow.utters_observe_bind_iff]
    exact ⟨_, rfl, _, rfl, utters_sendOnce hsecond hconcludes⟩

/-! ### Rounds -/

variable {budget remaining : Nat} {r : Except Failure Token} {next : Nat → TokenRequest → Flow Token}

theorem utters_of_round_ended
    (h : Round c endpoint choice budget remaining request turns (.ended r)) :
    Flow.Utters (c.exchange endpoint choice request >>= fun response =>
      c.settle budget request next response remaining) turns r := by
  rw [Flow.utters_bind_iff]
  cases h with
  | unsent hx => exact .inl ⟨_, by simpa using utters_exchange hx .unsent, rfl⟩
  | @settled before delivery after _ hx hsettles =>
    obtain ⟨actions, fault | response⟩ := delivery
    · cases hsettles
      exact .inl ⟨_, utters_exchange hx (.delivered .undelivered), rfl⟩
    · have hanswered := utters_exchange hx (.delivered .answered)
      rw [List.append_nil] at hanswered
      exact .inr ⟨response, before, after, rfl, hanswered, utters_of_settles_ended hsettles⟩

theorem utters_of_round_met {left : Nat} {challenge : Challenge} {claim : ClaimToken}
    {rest : List Turn}
    (h : Round c endpoint choice budget (left + 1) request turns (.met challenge claim))
    (hnext : (next left (request.nextRound challenge.ticket claim)).Utters rest r) :
    Flow.Utters (c.exchange endpoint choice request >>= fun response =>
      c.settle budget request next response (left + 1)) (turns ++ rest) r := by
  rw [Flow.utters_bind_iff]
  cases h with
  | @settled before delivery after _ hx hsettles =>
    obtain ⟨actions, fault | response⟩ := delivery
    · cases hsettles
    · have hanswered := utters_exchange hx (.delivered .answered)
      rw [List.append_nil] at hanswered
      exact .inr ⟨response, before, after ++ rest, List.append_assoc .., hanswered,
        utters_of_settles_met hsettles hnext⟩

/-! ### Negotiations -/

/-- The rounds of a negotiation can say the courses, and nothing else. -/
theorem utters_rounds_iff :
    (c.rounds endpoint choice budget remaining request).Utters turns r ↔
      Course c endpoint choice budget remaining request turns r := by
  refine ⟨course_of_utters, fun h => ?_⟩
  induction h with
  | last hlast =>
    rw [rounds_eq]
    exact utters_of_round_ended hlast
  | more hmet _ ih =>
    rw [rounds_eq]
    exact utters_of_round_met hmet ih

end Client

/-- An environment does not notice what stands around a flow. -/
theorem answers_framed_iff {σ α : Type} {env : Environment σ} {kind : FlowKind} {stage : String}
    {inner : List Turn} {result : Except Failure α} {s s' : σ} :
    env.Answers (Trace.framed kind stage inner result) s s' ↔ env.Answers inner s s' := by
  rw [Trace.framed, Environment.answers_append_iff]
  cases result <;>
    simp [Flow.opening, Flow.closing, Environment.Answers, Environment.AnswersOne]

/-- Under a configuration without fault, a run is a course that the environment answers. -/
theorem Client.negotiation_run_iff {σ : Type} {env : Environment σ} {c : Client} {stage : String}
    {endpoint : Url} {choice : Option Binding.Choice} {budget : UInt32} {request : TokenRequest}
    {s : σ} {p : Played σ (Except Failure Token)} (hconfig : c.config.fault? = none) :
    (c.negotiation stage endpoint choice budget request).run.run env s = p ↔
      ∃ inner, p.trace = Trace.framed .negotiation stage inner p.result ∧
        Course c endpoint choice budget.toNat budget.toNat request inner p.result ∧
        env.Answers inner s p.state := by
  rw [run_eq_iff]
  constructor
  · rintro ⟨hutters, hanswers⟩
    obtain ⟨inner, htrace, ⟨fault, hfault, -⟩ | ⟨-, hcourse⟩⟩ := negotiation_of_utters hutters
    · rw [hconfig] at hfault
      cases hfault
    · rw [htrace, answers_framed_iff] at hanswers
      exact ⟨inner, htrace, hcourse, hanswers⟩
  · rintro ⟨inner, htrace, hcourse, hanswers⟩
    rw [htrace, answers_framed_iff]
    refine ⟨Flow.utters_observed_iff.mpr ⟨inner, rfl, ?_⟩, hanswers⟩
    rw [hconfig]
    exact utters_rounds_iff.mpr hcourse

/-- A run with a server's metadata, from a course that the environment answers. -/
theorem Client.play_token_eq {σ : Type} {env : Environment σ} {c : Client} {metadata : Metadata}
    {request : TokenRequest} {s s' : σ} {inner : List Turn} {r : Except Failure Token}
    (hconfig : c.config.fault? = none)
    (hcourse : Course c metadata.tokenEndpoint (c.choice? metadata) c.config.maxDepth.toNat
      c.config.maxDepth.toNat request inner r) (hanswers : env.Answers inner s s') :
    (Entry.token metadata).play env c request s =
      ⟨r, s', Trace.framed .negotiation "token" inner r⟩ :=
  (negotiation_run_iff hconfig).mpr ⟨inner, rfl, hcourse, hanswers⟩

end TicketGrant
