import TicketGrant.Claim
import TicketGrant.Grant.Challenge
import TicketGrant.Observation

/-!
# Dialogues

A client does not act by itself: it says what it wants next and goes on with the answer. A dialogue
is that program as a tree. `run` plays it against an environment, which has a state and answers each
wish, and keeps a trace of what was said; so laws about clients are laws about trees and traces.
-/
namespace TicketGrant

open Http

/-- Why a resolver refuses to go on. -/
structure Abort where
  reason : String
  /-- The text of what made it give up. -/
  cause : Option String := none
deriving DecidableEq

/-- What the refusal tells. -/
def Abort.message (a : Abort) : String :=
  "Claim resolver aborted the negotiation: " ++ a.reason ++ "."

/-- What a resolver answers to a demand for claims. -/
inductive Resolution where
  | claim (token : ClaimToken)
  /-- It has nothing to offer. -/
  | nothing
  | abort (abort : Abort)
deriving DecidableEq

/-- A program that talks to its environment. -/
inductive Dialogue (α : Type) where
  | done (result : α)
  /-- Lets something be seen. -/
  | observe (entry : Observation) (next : Dialogue α)
  /-- Sends a request, with a fresh slot. -/
  | send (request : Request) (next : Delivery → Dialogue α)
  /-- Asks what a fault is to be told as. -/
  | explain (head : Option AnswerHead) (fault : Fault) (next : TransportFailure → Dialogue α)
  /-- Asks for claims. -/
  | resolve (challenge : Challenge) (next : Resolution → Dialogue α)
  /-- Asks for the time. -/
  | now (next : Instant → Dialogue α)
  /-- Asks for 16 bytes by chance. -/
  | draw (next : Bytes → Dialogue α)

namespace Dialogue

/-- Goes on with the result of a dialogue. -/
def bind {α β : Type} : Dialogue α → (α → Dialogue β) → Dialogue β
  | .done a, f => f a
  | .observe entry next, f => .observe entry (next.bind f)
  | .send request next, f => .send request fun x => (next x).bind f
  | .explain head fault next, f => .explain head fault fun x => (next x).bind f
  | .resolve challenge next, f => .resolve challenge fun x => (next x).bind f
  | .now next, f => .now fun x => (next x).bind f
  | .draw next, f => .draw fun x => (next x).bind f

instance : Monad Dialogue where
  pure := .done
  bind := bind

theorem bind_done {α : Type} (d : Dialogue α) : d.bind .done = d := by
  induction d with
  | done a => rfl
  | observe entry next ih => simp [bind, ih]
  | send request next ih => simp [bind, ih]
  | explain head fault next ih => simp [bind, ih]
  | resolve challenge next ih => simp [bind, ih]
  | now next ih => simp [bind, ih]
  | draw next ih => simp [bind, ih]

theorem bind_assoc {α β γ : Type} (d : Dialogue α) (f : α → Dialogue β) (g : β → Dialogue γ) :
    (d.bind f).bind g = d.bind fun a => (f a).bind g := by
  induction d with
  | done a => rfl
  | observe entry next ih => simp [bind, ih]
  | send request next ih => simp [bind, ih]
  | explain head fault next ih => simp [bind, ih]
  | resolve challenge next ih => simp [bind, ih]
  | now next ih => simp [bind, ih]
  | draw next ih => simp [bind, ih]

/-- Something said between a client and its environment. -/
inductive Turn where
  | observed (entry : Observation)
  | sent (request : Request) (delivery : Delivery)
  | explained (head : Option AnswerHead) (fault : Fault) (failure : TransportFailure)
  | resolved (challenge : Challenge) (resolution : Resolution)
  | told (now : Instant)
  | drew (bytes : Bytes)

/-- What answers a client. Each answer may change the state. -/
structure Environment (σ : Type) where
  send : Request → σ → Delivery × σ
  explain : Option AnswerHead → Fault → σ → TransportFailure × σ
  resolve : Challenge → σ → Resolution × σ
  now : σ → Instant × σ
  draw : σ → Bytes × σ

/-- What a dialogue comes to. -/
structure Played (σ α : Type) where
  result : α
  /-- The state at the end. -/
  state : σ
  /-- What was said, in order. -/
  trace : List Turn

/-- Puts a turn before what was said later. -/
def Played.after {σ α : Type} (turn : Turn) (p : Played σ α) : Played σ α :=
  { p with trace := turn :: p.trace }

/-- Plays a dialogue against an environment. -/
def run {σ α : Type} (env : Environment σ) : Dialogue α → σ → Played σ α
  | .done a, s => ⟨a, s, []⟩
  | .observe entry next, s => (next.run env s).after (.observed entry)
  | .send request next, s =>
    let (x, s) := env.send request s
    ((next x).run env s).after (.sent request x)
  | .explain head fault next, s =>
    let (x, s) := env.explain head fault s
    ((next x).run env s).after (.explained head fault x)
  | .resolve challenge next, s =>
    let (x, s) := env.resolve challenge s
    ((next x).run env s).after (.resolved challenge x)
  | .now next, s =>
    let (x, s) := env.now s
    ((next x).run env s).after (.told x)
  | .draw next, s =>
    let (x, s) := env.draw s
    ((next x).run env s).after (.drew x)

theorem run_bind {σ α β : Type} (env : Environment σ) (d : Dialogue α) (f : α → Dialogue β)
    (s : σ) :
    (d.bind f).run env s =
      let p := d.run env s
      let q := (f p.result).run env p.state
      ⟨q.result, q.state, p.trace ++ q.trace⟩ := by
  induction d generalizing s with
  | done a => simp [bind, run]
  | observe entry next ih => simp [bind, run, ih, Played.after]
  | send request next ih => simp [bind, run, ih, Played.after]
  | explain head fault next ih => simp [bind, run, ih, Played.after]
  | resolve challenge next ih => simp [bind, run, ih, Played.after]
  | now next ih => simp [bind, run, ih, Played.after]
  | draw next ih => simp [bind, run, ih, Played.after]

end Dialogue
end TicketGrant
