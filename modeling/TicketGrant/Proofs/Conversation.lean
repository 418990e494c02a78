import TicketGrant.Flow

/-!
# Conversations

What a dialogue says depends on what it is answered. `Utters` collects everything that it can say,
with the result that it comes to; `Answers` is the environment's part, which knows nothing of
dialogues. A play is exactly a conversation of both (`run_eq_iff`), so a law about every run is a
law about `Utters`, and `utters_bind_iff` takes a conversation apart along the program.
-/
namespace TicketGrant

open Http

namespace Dialogue

/-- The dialogue can say these turns on its way to a result. -/
def Utters {α : Type} : Dialogue α → List Turn → α → Prop
  | .done a, turns, b => turns = [] ∧ b = a
  | .observe entry next, turns, b => ∃ rest, turns = .observed entry :: rest ∧ next.Utters rest b
  | .send request next, turns, b =>
    ∃ x rest, turns = .sent request x :: rest ∧ (next x).Utters rest b
  | .explain head fault next, turns, b =>
    ∃ x rest, turns = .explained head fault x :: rest ∧ (next x).Utters rest b
  | .resolve challenge next, turns, b =>
    ∃ x rest, turns = .resolved challenge x :: rest ∧ (next x).Utters rest b
  | .now next, turns, b => ∃ x rest, turns = .told x :: rest ∧ (next x).Utters rest b
  | .draw next, turns, b => ∃ x rest, turns = .drew x :: rest ∧ (next x).Utters rest b

/-- One turn of an environment, from a state to a state. Observations do not touch it. -/
def Environment.AnswersOne {σ : Type} (env : Environment σ) : Turn → σ → σ → Prop
  | .observed _, s, s' => s' = s
  | .sent request x, s, s' => env.send request s = (x, s')
  | .explained head fault x, s, s' => env.explain head fault s = (x, s')
  | .resolved challenge x, s, s' => env.resolve challenge s = (x, s')
  | .told x, s, s' => env.now s = (x, s')
  | .drew x, s, s' => env.draw s = (x, s')

/-- The environment gives the answers in these turns, from a state to a state. -/
def Environment.Answers {σ : Type} (env : Environment σ) : List Turn → σ → σ → Prop
  | [], s, s' => s' = s
  | turn :: rest, s, s' => ∃ s₁, env.AnswersOne turn s s₁ ∧ env.Answers rest s₁ s'

/-! ### Sequences of dialogues -/

/-- A turn before two parts belongs to the first. -/
theorem cons_append_iff {X α : Type} (turn : X → Turn) {P : X → List Turn → α → Prop}
    {Q : α → List Turn → Prop} {turns : List Turn} :
    (∃ x tail, turns = turn x :: tail ∧
        ∃ a first rest, tail = first ++ rest ∧ P x first a ∧ Q a rest) ↔
      ∃ a first rest, turns = first ++ rest ∧
        (∃ x tail, first = turn x :: tail ∧ P x tail a) ∧ Q a rest := by
  constructor
  · rintro ⟨x, _, rfl, a, first, rest, rfl, hP, hQ⟩
    exact ⟨a, turn x :: first, rest, rfl, ⟨x, first, rfl, hP⟩, hQ⟩
  · rintro ⟨a, _, rest, rfl, ⟨x, first, rfl, hP⟩, hQ⟩
    exact ⟨x, first ++ rest, rfl, a, first, rest, rfl, hP, hQ⟩

theorem utters_bind_iff {α β : Type} {d : Dialogue α} {f : α → Dialogue β} {turns : List Turn}
    {b : β} :
    (d.bind f).Utters turns b ↔
      ∃ a first rest, turns = first ++ rest ∧ d.Utters first a ∧ (f a).Utters rest b := by
  induction d generalizing turns with
  | done a =>
    constructor
    · intro h; exact ⟨a, [], turns, rfl, ⟨rfl, rfl⟩, h⟩
    · rintro ⟨_, _, rest, rfl, ⟨rfl, rfl⟩, h⟩; exact h
  | observe entry next ih =>
    simp only [bind, Utters, ih]
    simpa using cons_append_iff (fun _ : Unit => .observed entry)
      (P := fun _ first a => next.Utters first a) (Q := fun a rest => (f a).Utters rest b)
  | send request next ih => simp only [bind, Utters, ih]; exact cons_append_iff _
  | explain head fault next ih => simp only [bind, Utters, ih]; exact cons_append_iff _
  | resolve challenge next ih => simp only [bind, Utters, ih]; exact cons_append_iff _
  | now next ih => simp only [bind, Utters, ih]; exact cons_append_iff _
  | draw next ih => simp only [bind, Utters, ih]; exact cons_append_iff _

/-! ### Plays are conversations -/

section Plays
variable {σ α : Type} {env : Environment σ}

theorem Environment.answers_append_iff {xs ys : List Turn} {s s' : σ} :
    env.Answers (xs ++ ys) s s' ↔ ∃ s₁, env.Answers xs s s₁ ∧ env.Answers ys s₁ s' := by
  induction xs generalizing s with
  | nil => simp [Environment.Answers]
  | cons x xs ih =>
    simp only [List.cons_append, Environment.Answers, ih]
    constructor
    · rintro ⟨s₂, h, s₁, h₁, h₂⟩; exact ⟨s₁, ⟨s₂, h, h₁⟩, h₂⟩
    · rintro ⟨s₁, ⟨s₂, h, h₁⟩, h₂⟩; exact ⟨s₂, h, s₁, h₁, h₂⟩

/-- The play of one wish: `x` is the answer, `s₁` the state behind it. -/
theorem after_eq_iff {X : Type} (turn : X → Turn) (next : X → Dialogue α) {x : X} {s s₁ : σ}
    (hone : ∀ y s', env.AnswersOne (turn y) s s' ↔ (x, s₁) = (y, s'))
    (ih : ∀ q, (next x).run env s₁ = q ↔
      (next x).Utters q.trace q.result ∧ env.Answers q.trace s₁ q.state) (p : Played σ α) :
    ((next x).run env s₁).after (turn x) = p ↔
      (∃ y rest, p.trace = turn y :: rest ∧ (next y).Utters rest p.result) ∧
        env.Answers p.trace s p.state := by
  constructor
  · rintro rfl
    obtain ⟨hutters, hanswers⟩ := (ih _).mp rfl
    exact ⟨⟨x, _, rfl, hutters⟩, s₁, (hone x s₁).mpr rfl, hanswers⟩
  · rcases p with ⟨result, state, trace⟩
    rintro ⟨⟨y, rest, htrace, hutters⟩, hanswers⟩
    simp only at htrace hutters hanswers
    subst htrace
    obtain ⟨s₂, hfirst, hrest⟩ := hanswers
    obtain ⟨rfl, rfl⟩ := Prod.mk.inj ((hone y s₂).mp hfirst)
    rw [(ih ⟨result, state, rest⟩).mpr ⟨hutters, hrest⟩]
    rfl

/-- A play is what a dialogue says and its environment answers. -/
theorem run_eq_iff (d : Dialogue α) (s : σ) (p : Played σ α) :
    d.run env s = p ↔ d.Utters p.trace p.result ∧ env.Answers p.trace s p.state := by
  induction d generalizing s p with
  | done a =>
    constructor
    · rintro rfl; exact ⟨⟨rfl, rfl⟩, rfl⟩
    · rcases p with ⟨result, state, trace⟩
      rintro ⟨⟨htrace, hresult⟩, hstate⟩
      simp only at htrace hresult hstate
      subst htrace hresult hstate
      rfl
  | observe entry next ih =>
    have hone (y : Unit) (s' : σ) :
        env.AnswersOne (.observed entry) s s' ↔ ((), s) = (y, s') := by
      simp [Environment.AnswersOne, eq_comm]
    simpa [run, Utters] using
      after_eq_iff (fun _ : Unit => .observed entry) (fun _ => next) hone (fun q => ih s q) p
  | send request next ih => exact after_eq_iff _ _ (fun _ _ => Iff.rfl) (fun q => ih _ _ q) p
  | explain head fault next ih => exact after_eq_iff _ _ (fun _ _ => Iff.rfl) (fun q => ih _ _ q) p
  | resolve challenge next ih => exact after_eq_iff _ _ (fun _ _ => Iff.rfl) (fun q => ih _ _ q) p
  | now next ih => exact after_eq_iff _ _ (fun _ _ => Iff.rfl) (fun q => ih _ _ q) p
  | draw next ih => exact after_eq_iff _ _ (fun _ _ => Iff.rfl) (fun q => ih _ _ q) p

/-- What is said in a play is one of the things that the dialogue can say. -/
theorem utters_run (env : Environment σ) (d : Dialogue α) (s : σ) :
    d.Utters (d.run env s).trace (d.run env s).result := ((run_eq_iff d s _).mp rfl).1

end Plays

end Dialogue

/-! ### Conversations of flows -/

namespace Flow
variable {α β : Type} {turns : List Dialogue.Turn}

theorem run_bind (flow : Flow α) (f : α → Flow β) :
    (flow >>= f).run = Dialogue.bind flow.run (ExceptT.bindCont f) := rfl

theorem run_lift (d : Dialogue α) :
    (ExceptT.lift d : Flow α).run = Dialogue.bind d fun a => .done (.ok a) := rfl

/-- The flow can say these turns on its way to a result. -/
def Utters (flow : Flow α) (turns : List Dialogue.Turn) (result : Except Failure α) : Prop :=
  Dialogue.Utters flow.run turns result

theorem utters_pure_iff {a : α} {r : Except Failure α} :
    Utters (pure a) turns r ↔ turns = [] ∧ r = .ok a := Iff.rfl

theorem utters_throw_iff {failure : Failure} {r : Except Failure α} :
    Utters (throw failure) turns r ↔ turns = [] ∧ r = .error failure := Iff.rfl

/-- A sequence of flows: either the first fails, or the second goes on with its result. -/
theorem utters_bind_iff {flow : Flow α} {f : α → Flow β} {r : Except Failure β} :
    Utters (flow >>= f) turns r ↔
      (∃ failure, flow.Utters turns (.error failure) ∧ r = .error failure) ∨
      ∃ a first rest, turns = first ++ rest ∧ flow.Utters first (.ok a) ∧ (f a).Utters rest r := by
  rw [Utters, run_bind, Dialogue.utters_bind_iff]
  constructor
  · rintro ⟨failure | a, first, rest, rfl, h, h'⟩
    · obtain ⟨rfl, rfl⟩ := h'
      exact .inl ⟨failure, by rwa [List.append_nil], rfl⟩
    · exact .inr ⟨a, first, rest, rfl, h, h'⟩
  · rintro (⟨failure, h, rfl⟩ | ⟨a, first, rest, rfl, h, h'⟩)
    · exact ⟨.error failure, turns, [], by simp, h, rfl, rfl⟩
    · exact ⟨.ok a, first, rest, rfl, h, h'⟩

/-- A dialogue that cannot fail by itself. -/
theorem utters_lift_iff {d : Dialogue α} {r : Except Failure α} :
    Utters (ExceptT.lift d) turns r ↔ ∃ a, d.Utters turns a ∧ r = .ok a := by
  rw [Utters, run_lift, Dialogue.utters_bind_iff]
  constructor
  · rintro ⟨a, first, _, rfl, h, rfl, rfl⟩; exact ⟨a, by simpa using h, rfl⟩
  · rintro ⟨a, h, rfl⟩; exact ⟨a, turns, [], by simp, h, rfl, rfl⟩

theorem utters_ofExcept_iff {ε : Type} {failure : ε → Failure} {result : Except ε α}
    {r : Except Failure α} :
    Utters (ofExcept failure result) turns r ↔ turns = [] ∧ r = result.mapError failure := Iff.rfl

/-- A dialogue that cannot fail goes on in any case. -/
theorem utters_lift_bind_iff {d : Dialogue α} {f : α → Flow β} {r : Except Failure β} :
    Utters (ExceptT.lift d >>= f) turns r ↔
      ∃ a first rest, turns = first ++ rest ∧ d.Utters first a ∧ (f a).Utters rest r := by
  rw [utters_bind_iff]
  constructor
  · rintro (⟨failure, h, -⟩ | ⟨a, first, rest, rfl, h, h'⟩)
    · obtain ⟨a, -, ha⟩ := utters_lift_iff.mp h; cases ha
    · obtain ⟨_, h, ha⟩ := utters_lift_iff.mp h
      cases ha
      exact ⟨a, first, rest, rfl, h, h'⟩
  · rintro ⟨a, first, rest, rfl, h, h'⟩
    exact .inr ⟨a, first, rest, rfl, utters_lift_iff.mpr ⟨a, h, rfl⟩, h'⟩

theorem utters_observe_bind_iff {entry : Observation} {f : Unit → Flow β} {r : Except Failure β} :
    Utters (observe entry >>= f) turns r ↔
      ∃ rest, turns = .observed entry :: rest ∧ (f ()).Utters rest r := by
  rw [observe, utters_lift_bind_iff]
  constructor
  · rintro ⟨_, _, rest, rfl, ⟨_, rfl, rfl, rfl⟩, h⟩; exact ⟨rest, rfl, h⟩
  · rintro ⟨rest, rfl, h⟩; exact ⟨(), [.observed entry], rest, rfl, ⟨[], rfl, rfl, rfl⟩, h⟩

theorem utters_now_bind_iff {f : Instant → Flow β} {r : Except Failure β} :
    Utters (now >>= f) turns r ↔ ∃ x rest, turns = .told x :: rest ∧ (f x).Utters rest r := by
  rw [now, utters_lift_bind_iff]
  constructor
  · rintro ⟨x, _, rest, rfl, ⟨_, _, rfl, rfl, rfl⟩, h⟩; exact ⟨x, rest, rfl, h⟩
  · rintro ⟨x, rest, rfl, h⟩; exact ⟨x, [.told x], rest, rfl, ⟨x, [], rfl, rfl, rfl⟩, h⟩

theorem utters_draw_bind_iff {f : Bytes → Flow β} {r : Except Failure β} :
    Utters (draw >>= f) turns r ↔ ∃ x rest, turns = .drew x :: rest ∧ (f x).Utters rest r := by
  rw [draw, utters_lift_bind_iff]
  constructor
  · rintro ⟨x, _, rest, rfl, ⟨_, _, rfl, rfl, rfl⟩, h⟩; exact ⟨x, rest, rfl, h⟩
  · rintro ⟨x, rest, rfl, h⟩; exact ⟨x, [.drew x], rest, rfl, ⟨x, [], rfl, rfl, rfl⟩, h⟩

theorem utters_resolve_bind_iff {challenge : Challenge} {f : Resolution → Flow β}
    {r : Except Failure β} :
    Utters (resolve challenge >>= f) turns r ↔
      ∃ x rest, turns = .resolved challenge x :: rest ∧ (f x).Utters rest r := by
  rw [resolve, utters_lift_bind_iff]
  constructor
  · rintro ⟨x, _, rest, rfl, ⟨_, _, rfl, rfl, rfl⟩, h⟩; exact ⟨x, rest, rfl, h⟩
  · rintro ⟨x, rest, rfl, h⟩
    exact ⟨x, [.resolved challenge x], rest, rfl, ⟨x, [], rfl, rfl, rfl⟩, h⟩

theorem utters_ofExcept_bind_iff {ε : Type} {failure : ε → Failure} {result : Except ε α}
    {f : α → Flow β} {r : Except Failure β} :
    Utters (ofExcept failure result >>= f) turns r ↔
      (∃ e, result = .error e ∧ turns = [] ∧ r = .error (failure e)) ∨
      ∃ a, result = .ok a ∧ (f a).Utters turns r := by
  rw [utters_bind_iff]
  constructor
  · rintro (⟨_, ⟨rfl, h⟩, rfl⟩ | ⟨a, _, rest, rfl, ⟨rfl, h⟩, h'⟩)
    · cases result with
      | error e => cases h; exact .inl ⟨e, rfl, rfl, rfl⟩
      | ok a => cases h
    · cases result with
      | error e => cases h
      | ok a => cases h; exact .inr ⟨a, rfl, h'⟩
  · rintro (⟨e, rfl, rfl, rfl⟩ | ⟨a, rfl, h⟩)
    · exact .inl ⟨failure e, ⟨rfl, rfl⟩, rfl⟩
    · exact .inr ⟨a, [], turns, rfl, ⟨rfl, rfl⟩, h⟩

/-- What the slot holds after a delivery. -/
def held (actions : List Slot.Action) : Option AnswerHead := (({} : Slot).afterAll actions).held

/-- A request is answered, or its fault is explained together with what the slot holds. -/
theorem utters_send_iff {request : Request}
    {r : Except (TransportFailure × Option AnswerHead) Response} :
    (send request).Utters turns r ↔
      (∃ actions response, turns = [.sent request ⟨actions, .ok response⟩] ∧ r = .ok response) ∨
      ∃ actions fault failure,
        turns = [.sent request ⟨actions, .error fault⟩, .explained (held actions) fault failure] ∧
        r = .error (failure, held actions) := by
  constructor
  · rintro ⟨⟨actions, fault | response⟩, rest, rfl, h⟩
    · obtain ⟨failure, _, rfl, rfl, rfl⟩ := h
      exact .inr ⟨actions, fault, failure, rfl, rfl⟩
    · obtain ⟨rfl, rfl⟩ := h
      exact .inl ⟨actions, response, rfl, rfl⟩
  · rintro (⟨actions, response, rfl, rfl⟩ | ⟨actions, fault, failure, rfl, rfl⟩)
    · exact ⟨⟨actions, .ok response⟩, [], rfl, rfl, rfl⟩
    · exact ⟨⟨actions, .error fault⟩, _, rfl, failure, [], rfl, rfl, rfl⟩

/-- What is said before a flow: the span and the attempt. -/
def opening (kind : FlowKind) (stage : String) : List Dialogue.Turn :=
  [.observed (.span kind stage), .observed (.flow kind .attempt)]

/-- What is said behind a flow: the success, or the failure and its count. -/
def closing (kind : FlowKind) : Except Failure α → List Dialogue.Turn
  | .ok _ => [.observed (.flow kind .success)]
  | .error failure => [.observed (.failed kind failure), .observed (.flow kind .failure)]

theorem utters_observed_iff {kind : FlowKind} {stage : String} {flow : Flow α}
    {r : Except Failure α} :
    Utters (observed kind stage flow) turns r ↔
      ∃ inner, turns = opening kind stage ++ inner ++ closing kind r ∧ flow.Utters inner r := by
  simp only [observed, utters_observe_bind_iff, utters_lift_bind_iff]
  constructor
  · rintro ⟨_, rfl, _, rfl, failure | a, inner, last, rfl, h, h'⟩
    · simp only [utters_observe_bind_iff] at h'
      obtain ⟨_, rfl, _, rfl, rfl, rfl⟩ := h'
      exact ⟨inner, by simp [opening, closing], h⟩
    · simp only [utters_observe_bind_iff] at h'
      obtain ⟨_, rfl, rfl, rfl⟩ := h'
      exact ⟨inner, by simp [opening, closing], h⟩
  · rintro ⟨inner, rfl, h⟩
    refine ⟨_, rfl, _, rfl, r, inner, closing kind r, by simp, h, ?_⟩
    cases r with
    | error failure => simp [closing, utters_observe_bind_iff, utters_throw_iff]
    | ok a => simp [closing, utters_observe_bind_iff, utters_pure_iff]

end Flow
end TicketGrant
