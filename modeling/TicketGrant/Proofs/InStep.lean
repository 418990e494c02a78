import TicketGrant.Proofs.Machine

/-!
# Flows in step

When two flows cannot be told apart by what is seen of them. In step, they see to the same things in
the same order and have the same wishes; their requests, what they draw and the claims that they
find may differ. Environments that answer alike lead flows that are in step to the same end, with
the same observations (`Dialogue.InStep.agree_run`).

One difference cannot be excluded: a key makes no signature of a message whose secret factor will not
do or is not found. A flow to which this happens ends there, and the other may go on.
-/
namespace TicketGrant

open Http

/-- Two answers of resolvers differ in their claims at most. -/
inductive Resolution.SameKind : Resolution → Resolution → Prop
  | claim {token token'} : SameKind (.claim token) (.claim token')
  | nothing : SameKind .nothing .nothing
  | abort {abort abort' : Abort} : abort.message = abort'.message →
      SameKind (.abort abort) (.abort abort')

/-- The end of a flow whose key makes no signature. -/
def unsigned {α : Type} : Except Failure α := .error (.signing .noSignature)

/-- Two results: the same failure, or successes that are related. -/
inductive SameOutcome {α β : Type} (rel : α → β → Prop) :
    Except Failure α → Except Failure β → Prop
  | ok {a b} : rel a b → SameOutcome rel (.ok a) (.ok b)
  | error {failure} : SameOutcome rel (.error failure) (.error failure)

theorem SameOutcome.eq {α : Type} {r r' : Except Failure α} (h : SameOutcome Eq r r') : r = r' := by
  cases h with
  | ok heq => rw [heq]
  | error => rfl

namespace Dialogue
variable {σ τ α β γ δ : Type} {rel : α → β → Prop} {rel' : γ → δ → Prop}

/-- Two dialogues are in step. -/
inductive InStep (rel : α → β → Prop) :
    Dialogue (Except Failure α) → Dialogue (Except Failure β) → Prop
  | done {r r'} : SameOutcome rel r r' → InStep rel (.done r) (.done r')
  | observe {entry next next'} : InStep rel next next' →
      InStep rel (.observe entry next) (.observe entry next')
  /-- The requests may differ. -/
  | send {request request' next next'} : (∀ x, InStep rel (next x) (next' x)) →
      InStep rel (.send request next) (.send request' next')
  | explain {head fault next next'} : (∀ x, InStep rel (next x) (next' x)) →
      InStep rel (.explain head fault next) (.explain head fault next')
  /-- The claims may differ. -/
  | resolve {challenge next next'} :
      (∀ x x', x.SameKind x' → InStep rel (next x) (next' x')) →
      InStep rel (.resolve challenge next) (.resolve challenge next')
  | now {next next'} : (∀ x, InStep rel (next x) (next' x)) → InStep rel (.now next) (.now next')
  /-- The bytes may differ. -/
  | draw {next next'} : (∀ x x', InStep rel (next x) (next' x')) →
      InStep rel (.draw next) (.draw next')
  /-- The first cannot go on for want of a signature. -/
  | first {e} : InStep rel (.done unsigned) e
  /-- The second cannot. -/
  | second {d} : InStep rel d (.done unsigned)

/-- Dialogues in step go on in step, if what follows is in step for all results that are related. -/
theorem InStep.bind {d : Dialogue (Except Failure α)} {e : Dialogue (Except Failure β)}
    {f : α → Flow γ} {g : β → Flow δ} (h : InStep rel d e)
    (hnext : ∀ a b, rel a b → InStep rel' (f a).run (g b).run) :
    InStep rel' (d.bind (ExceptT.bindCont f)) (e.bind (ExceptT.bindCont g)) := by
  induction h with
  | done hresult =>
    cases hresult with
    | ok hrel => exact hnext _ _ hrel
    | error => exact .done .error
  | observe _ ih => exact .observe ih
  | send _ ih => exact .send ih
  | explain _ ih => exact .explain ih
  | resolve _ ih => exact .resolve ih
  | now _ ih => exact .now ih
  | draw _ ih => exact .draw ih
  | first => exact .first
  | second => exact .second

/-! ### Environments -/

/-- Environments answer alike: whatever the requests are, the answers are the same, but for the
claims that are found and the bytes that are drawn. `R` is what their states have in common. -/
structure Environment.InStep (R : σ → τ → Prop) (env : Environment σ) (env' : Environment τ) :
    Prop where
  send : ∀ request request' s s', R s s' → ∃ x t t',
    env.send request s = (x, t) ∧ env'.send request' s' = (x, t') ∧ R t t'
  explain : ∀ head fault s s', R s s' → ∃ x t t',
    env.explain head fault s = (x, t) ∧ env'.explain head fault s' = (x, t') ∧ R t t'
  resolve : ∀ challenge s s', R s s' → ∃ x x' t t',
    env.resolve challenge s = (x, t) ∧ env'.resolve challenge s' = (x', t') ∧ x.SameKind x' ∧
      R t t'
  now : ∀ s s', R s s' → ∃ x t t', env.now s = (x, t) ∧ env'.now s' = (x, t') ∧ R t t'
  draw : ∀ s s', R s s' → ∃ x x' t t', env.draw s = (x, t) ∧ env'.draw s' = (x', t') ∧ R t t'

/-- What two plays have in common: all that can be seen, and the results; or one of them has no
signature, and up to that what can be seen. -/
inductive Agree (rel : α → β → Prop) (p : Played σ (Except Failure α))
    (q : Played τ (Except Failure β)) : Prop
  | same : SameOutcome rel p.result q.result →
      Trace.observations p.trace = Trace.observations q.trace → Agree rel p q
  | first : p.result = unsigned →
      Trace.observations p.trace <+: Trace.observations q.trace → Agree rel p q
  | second : q.result = unsigned →
      Trace.observations q.trace <+: Trace.observations p.trace → Agree rel p q

/-- A turn more that looks the same changes nothing. -/
theorem Agree.after {p : Played σ (Except Failure α)} {q : Played τ (Except Failure β)}
    (h : Agree rel p q) {turn turn' : Turn}
    (hturn : Trace.observation? turn = Trace.observation? turn') :
    Agree rel (p.after turn) (q.after turn') := by
  have hcons (turn : Turn) (trace : List Turn) : Trace.observations (turn :: trace) =
      (Trace.observation? turn).toList ++ Trace.observations trace := by
    cases turn <;> rfl
  have hp := hcons turn p.trace
  have hq := hcons turn' q.trace
  rw [← hturn] at hq
  cases h with
  | same hresult hseen =>
    refine .same hresult ?_
    rw [Played.after, Played.after, hp, hq, hseen]
  | first hresult hseen =>
    refine .first hresult ?_
    rw [Played.after, Played.after, hp, hq]
    exact (List.prefix_append_right_inj _).mpr hseen
  | second hresult hseen =>
    refine .second hresult ?_
    rw [Played.after, Played.after, hp, hq]
    exact (List.prefix_append_right_inj _).mpr hseen

/-- Environments that answer alike lead dialogues that are in step to the same end. -/
theorem InStep.agree_run {R : σ → τ → Prop} {env : Environment σ} {env' : Environment τ}
    (henv : Environment.InStep R env env') {d : Dialogue (Except Failure α)}
    {e : Dialogue (Except Failure β)} (h : InStep rel d e) {s : σ} {s' : τ} (hstate : R s s') :
    Agree rel (d.run env s) (e.run env' s') := by
  induction h generalizing s s' with
  | done hresult => exact .same hresult rfl
  | observe _ ih => exact (ih hstate).after rfl
  | @send request request' _ _ _ ih =>
    obtain ⟨x, t, t', hfirst, hsecond, hnext⟩ := henv.send request request' s s' hstate
    rw [run, run, hfirst, hsecond]
    exact (ih x hnext).after rfl
  | @explain head fault _ _ _ ih =>
    obtain ⟨x, t, t', hfirst, hsecond, hnext⟩ := henv.explain head fault s s' hstate
    rw [run, run, hfirst, hsecond]
    exact (ih x hnext).after rfl
  | @resolve challenge _ _ _ ih =>
    obtain ⟨x, x', t, t', hfirst, hsecond, hkind, hnext⟩ := henv.resolve challenge s s' hstate
    rw [run, run, hfirst, hsecond]
    exact (ih x x' hkind hnext).after rfl
  | now _ ih =>
    obtain ⟨x, t, t', hfirst, hsecond, hnext⟩ := henv.now s s' hstate
    rw [run, run, hfirst, hsecond]
    exact (ih x hnext).after rfl
  | draw _ ih =>
    obtain ⟨x, x', t, t', hfirst, hsecond, hnext⟩ := henv.draw s s' hstate
    rw [run, run, hfirst, hsecond]
    exact (ih x x' hnext).after rfl
  | first => exact .first rfl (List.nil_prefix ..)
  | second => exact .second rfl (List.nil_prefix ..)

end Dialogue

/-! ### Flows -/

namespace Flow
variable {α β γ δ : Type} {rel : α → β → Prop} {rel' : γ → δ → Prop}

/-- Two flows are in step. -/
def InStep (rel : α → β → Prop) (x : Flow α) (y : Flow β) : Prop :=
  Dialogue.InStep rel x.run y.run

theorem InStep.bind {x : Flow α} {y : Flow β} {f : α → Flow γ} {g : β → Flow δ}
    (h : InStep rel x y) (hnext : ∀ a b, rel a b → InStep rel' (f a) (g b)) :
    InStep rel' (x >>= f) (y >>= g) := Dialogue.InStep.bind h hnext

theorem inStep_pure {a : α} {b : β} (h : rel a b) : InStep rel (pure a) (pure b) := .done (.ok h)

theorem inStep_throw (failure : Failure) : InStep rel (throw failure) (throw failure) :=
  .done .error

theorem inStep_ofExcept {ε : Type} (failure : ε → Failure) (result : Except ε α) :
    InStep Eq (ofExcept failure result) (ofExcept failure result) := by
  cases result with
  | error e => exact .done .error
  | ok a => exact .done (.ok rfl)

theorem inStep_observe (entry : Observation) : InStep Eq (observe entry) (observe entry) :=
  .observe (.done (.ok rfl))

theorem inStep_now : InStep Eq now now := .now fun _ => .done (.ok rfl)

theorem inStep_draw : InStep (fun _ _ => True) draw draw := .draw fun _ _ => .done (.ok trivial)

theorem inStep_resolve (challenge : Challenge) :
    InStep Resolution.SameKind (resolve challenge) (resolve challenge) :=
  .resolve fun _ _ hkind => .done (.ok hkind)

theorem inStep_send (request request' : Request) :
    InStep Eq (ExceptT.lift (send request)) (ExceptT.lift (send request')) := by
  rw [InStep, run_lift, run_lift]
  refine .send fun delivery => ?_
  obtain ⟨actions, fault | response⟩ := delivery
  · exact .explain fun failure => .done (.ok rfl)
  · exact .done (.ok rfl)

/-! ### Flows with their observations -/

section Observed
variable {σ τ : Type} {kind : FlowKind} {stage : String}

theorem run_observed (env : Dialogue.Environment σ) (flow : Flow α) (s : σ) :
    (observed kind stage flow).run.run env s =
      let p := flow.run.run env s
      ⟨p.result, p.state, Trace.framed kind stage p.trace p.result⟩ := by
  obtain ⟨hutters, hanswers⟩ := (Dialogue.run_eq_iff flow.run s _).mp rfl
  exact (Dialogue.run_eq_iff ..).mpr
    ⟨utters_observed_iff.mpr ⟨_, rfl, hutters⟩, answers_framed_iff.mpr hanswers⟩

/-- A play ends because a key makes no signature; what is seen before this is seen in the other play
too. -/
structure Falters (kind : FlowKind) (p : Dialogue.Played σ (Except Failure α))
    (q : Dialogue.Played τ (Except Failure α)) : Prop where
  result : p.result = unsigned
  observations : ∃ before,
    Trace.observations p.trace = before ++ Trace.observations (closing kind p.result) ∧
      before <+: Trace.observations q.trace

/-- Two plays cannot be told apart by their results and by what is seen of them, unless one of them
falters. -/
inductive Indistinct (kind : FlowKind) (p : Dialogue.Played σ (Except Failure α))
    (q : Dialogue.Played τ (Except Failure α)) : Prop
  | same : p.result = q.result → Trace.observations p.trace = Trace.observations q.trace →
      Indistinct kind p q
  | first : Falters kind p q → Indistinct kind p q
  | second : Falters kind q p → Indistinct kind p q

theorem falters_framed {p : Dialogue.Played σ (Except Failure α)}
    {q : Dialogue.Played τ (Except Failure α)} (hresult : p.result = unsigned)
    (hseen : Trace.observations p.trace <+: Trace.observations q.trace) :
    Falters kind
      (⟨p.result, p.state, Trace.framed kind stage p.trace p.result⟩ : Dialogue.Played σ _)
      (⟨q.result, q.state, Trace.framed kind stage q.trace q.result⟩ : Dialogue.Played τ _) := by
  refine ⟨hresult, Trace.observations (opening kind stage ++ p.trace), ?_, ?_⟩
  · rw [Trace.framed, Trace.observations_append]
  · rw [Trace.framed, Trace.observations_append, Trace.observations_append,
      Trace.observations_append]
    exact ((List.prefix_append_right_inj _).mpr hseen).trans (List.prefix_append ..)

/-- Flows in step are the same from outside. -/
theorem InStep.indistinct_observed {R : σ → τ → Prop} {env : Dialogue.Environment σ}
    {env' : Dialogue.Environment τ} (henv : Dialogue.Environment.InStep R env env') {x y : Flow α}
    (h : InStep Eq x y) {s : σ} {s' : τ} (hstate : R s s') :
    Indistinct kind ((observed kind stage x).run.run env s)
      ((observed kind stage y).run.run env' s') := by
  rw [run_observed, run_observed]
  cases Dialogue.InStep.agree_run henv h hstate with
  | same hresult hseen =>
    refine .same hresult.eq ?_
    simp only [Trace.framed, Trace.observations_append, hseen, hresult.eq]
  | first hresult hseen => exact .first (falters_framed hresult hseen)
  | second hresult hseen => exact .second (falters_framed hresult hseen)

end Observed

end Flow
end TicketGrant
