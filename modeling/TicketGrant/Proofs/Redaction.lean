import TicketGrant.Proofs.LegalFields
import TicketGrant.Proofs.Settlement

/-!
# Redacted dialogues

What two clients have in common when a part of their requests is blotted out. Flows are alike if
they become the same dialogue; then no environment that overlooks the part can tell them apart
(`Alike.run`). A client with another secret is alike in all that it does, as soon as its single
requests are (`Client.Conceals`).
-/
namespace TicketGrant

open Http

namespace Dialogue
variable {σ α β : Type} {f : Request → Request}

/-- The dialogue with its requests redacted. -/
def redact (f : Request → Request) : Dialogue α → Dialogue α
  | .done a => .done a
  | .observe entry next => .observe entry (next.redact f)
  | .send request next => .send (f request) fun x => (next x).redact f
  | .explain head fault next => .explain head fault fun x => (next x).redact f
  | .resolve challenge next => .resolve challenge fun x => (next x).redact f
  | .now next => .now fun x => (next x).redact f
  | .draw next => .draw fun x => (next x).redact f

theorem redact_bind (d : Dialogue α) (k : α → Dialogue β) :
    (d.bind k).redact f = (d.redact f).bind fun a => (k a).redact f := by
  induction d with
  | done a => rfl
  | observe entry next ih => simp [bind, redact, ih]
  | send request next ih => simp [bind, redact, ih]
  | explain head fault next ih => simp [bind, redact, ih]
  | resolve challenge next ih => simp [bind, redact, ih]
  | now next ih => simp [bind, redact, ih]
  | draw next ih => simp [bind, redact, ih]

/-- A turn with its request redacted. -/
def Turn.redact (f : Request → Request) : Turn → Turn
  | .sent request delivery => .sent (f request) delivery
  | turn => turn

/-- A play with its requests redacted. -/
def Played.redact (f : Request → Request) (p : Played σ α) : Played σ α :=
  { p with trace := p.trace.map (Turn.redact f) }

@[simp] theorem Played.redact_id (p : Played σ α) : p.redact id = p := by
  have hturn : Turn.redact id = id := by
    funext turn
    cases turn <;> rfl
  rw [redact, hturn, List.map_id]

/-- The environment answers a request by what is left of it. -/
def Environment.Overlooks (env : Environment σ) (f : Request → Request) : Prop :=
  ∀ request s, env.send (f request) s = env.send request s

/-- What is redacted before a play may as well be redacted after it. -/
theorem run_redact {env : Environment σ} (h : env.Overlooks f) (d : Dialogue α) (s : σ) :
    (d.redact f).run env s = (d.run env s).redact f := by
  induction d generalizing s with
  | done a => rfl
  | observe entry next ih => simp [redact, run, ih, Played.after, Played.redact, Turn.redact]
  | send request next ih =>
    simp [redact, run, h request s, ih, Played.after, Played.redact, Turn.redact]
  | explain head fault next ih => simp [redact, run, ih, Played.after, Played.redact, Turn.redact]
  | resolve challenge next ih => simp [redact, run, ih, Played.after, Played.redact, Turn.redact]
  | now next ih => simp [redact, run, ih, Played.after, Played.redact, Turn.redact]
  | draw next ih => simp [redact, run, ih, Played.after, Played.redact, Turn.redact]

end Dialogue

/-! ### Flows that are alike -/

namespace Flow
variable {σ α β : Type} {f : Request → Request}

/-- Redacted, the flows are the same. -/
def Alike (f : Request → Request) (x y : Flow α) : Prop := x.run.redact f = y.run.redact f

theorem Alike.refl (x : Flow α) : Alike f x x := rfl

/-- Flows that are alike go on alike, if what follows is alike for every result. -/
theorem Alike.bind {x y : Flow α} {g h : α → Flow β} (hxy : Alike f x y)
    (hgh : ∀ a, Alike f (g a) (h a)) : Alike f (x >>= g) (y >>= h) := by
  have hcont : (fun r => (ExceptT.bindCont g r).redact f) =
      fun r => (ExceptT.bindCont h r).redact f := by
    funext r
    cases r with
    | error failure => rfl
    | ok a => exact hgh a
  rw [Alike, run_bind, run_bind, Dialogue.redact_bind, Dialogue.redact_bind, hcont, hxy]

/-- Dialogues that cannot fail are alike as flows if they are the same redacted. -/
theorem alike_lift {d e : Dialogue α} (h : d.redact f = e.redact f) :
    Alike f (ExceptT.lift d) (ExceptT.lift e) := by
  rw [Alike, run_lift, run_lift, Dialogue.redact_bind, Dialogue.redact_bind, h]

theorem redact_send {q q' : Request} (h : f q = f q') :
    (send q).redact f = (send q').redact f := by
  rw [send, send, Dialogue.redact, Dialogue.redact, h]

theorem Alike.observed {x y : Flow α} (h : Alike f x y) (kind : FlowKind) (stage : String) :
    Alike f (observed kind stage x) (observed kind stage y) :=
  (Alike.refl _).bind fun _ => (Alike.refl _).bind fun _ => (alike_lift h).bind fun _ => .refl _

/-- An environment that overlooks a part of the requests lets flows that are alike come to the same,
by the same turns up to that part. -/
theorem Alike.run {env : Dialogue.Environment σ} {x y : Flow α} (h : Alike f x y)
    (henv : env.Overlooks f) (s : σ) :
    (x.run.run env s).redact f = (y.run.run env s).redact f := by
  rw [← Dialogue.run_redact henv, ← Dialogue.run_redact henv, h]

end Flow

/-! ### Clients that are alike -/

namespace Client

/-- The client with another secret, or without one. -/
def withSecret (c : Client) (other : Option Secret) : Client := { c with clientSecret := other }

/-- Redacted, the client's requests are those that it sends with the other secret. -/
def Conceals (c : Client) (f : Request → Request) (other : Option Secret) : Prop :=
  ∀ target request proof,
    f ((c.withSecret other).httpRequest target request proof) =
      f (c.httpRequest target request proof)

/-- A round is settled alike, if the rounds after it are alike. -/
theorem alike_settle (c : Client) {f : Request → Request} (budget : Nat) (request : TokenRequest)
    {next next' : Nat → TokenRequest → Flow Token} (response : Response) (remaining : Nat)
    (hnext : ∀ left request, remaining = left + 1 →
      Flow.Alike f (next left request) (next' left request)) :
    Flow.Alike f (c.settle budget request next response remaining)
      (c.settle budget request next' response remaining) := by
  unfold settle
  split
  · exact .refl _
  split
  · exact .refl _
  cases remaining with
  | zero => exact .refl _
  | succ left =>
    exact (Flow.Alike.refl _).bind fun challenge => (Flow.Alike.refl _).bind fun claim =>
      hnext left _ rfl

/-- No secret has a part in how a round is settled. -/
theorem settle_withSecret (c : Client) (other : Option Secret) (budget : Nat)
    (request : TokenRequest) (next : Nat → TokenRequest → Flow Token) (response : Response)
    (remaining : Nat) :
    (c.withSecret other).settle budget request next response remaining =
      c.settle budget request next response remaining := rfl

section Alike
variable {c : Client} {f : Request → Request} {other : Option Secret} (h : c.Conceals f other)
  (endpoint : Url) (choice : Option Binding.Choice)
include h

theorem Conceals.sendOnce (request : TokenRequest) (nonce : Option String) :
    Flow.Alike f ((c.withSecret other).sendOnce endpoint choice request nonce)
      (c.sendOnce endpoint choice request nonce) := by
  refine (Flow.Alike.refl _).bind fun proof => (Flow.Alike.refl _).bind fun target => ?_
  -- no secret is the reason why a request cannot be built
  have hlegal := (c.withSecret other).all_isLegal_httpRequest target request proof
  rw [← c.all_isLegal_httpRequest target request proof] at hlegal
  rw [Request.checked, Request.checked, hlegal]
  split
  · have hsend := Flow.redact_send (h target request proof)
    exact (Flow.alike_lift hsend).bind fun answer => .refl _
  · exact .refl _

theorem Conceals.exchange (request : TokenRequest) :
    Flow.Alike f ((c.withSecret other).exchange endpoint choice request)
      (c.exchange endpoint choice request) := by
  refine (h.sendOnce endpoint choice request none).bind fun response => ?_
  have hdemanded : (c.withSecret other).demandedNonce? response = c.demandedNonce? response := rfl
  rw [hdemanded]
  split
  · exact (Flow.Alike.refl _).bind fun _ => (Flow.Alike.refl _).bind fun _ =>
      h.sendOnce endpoint _ request _
  · exact .refl _

theorem Conceals.rounds (budget remaining : Nat) (request : TokenRequest) :
    Flow.Alike f ((c.withSecret other).rounds endpoint choice budget remaining request)
      (c.rounds endpoint choice budget remaining request) := by
  -- on the budget: the rounds behind one have less of it, and another request
  induction remaining generalizing request with
  | zero =>
    rw [rounds_eq, rounds_eq]
    refine (h.exchange endpoint choice request).bind fun response => ?_
    rw [settle_withSecret]
    exact c.alike_settle budget request response 0 fun left _ hleft => by cases hleft
  | succ left ih =>
    rw [rounds_eq, rounds_eq]
    refine (h.exchange endpoint choice request).bind fun response => ?_
    rw [settle_withSecret]
    exact c.alike_settle budget request response (left + 1) fun _ current hleft => by
      cases hleft
      exact ih current

theorem Conceals.negotiation (stage : String) (budget : UInt32) (request : TokenRequest) :
    Flow.Alike f ((c.withSecret other).negotiation stage endpoint choice budget request)
      (c.negotiation stage endpoint choice budget request) := by
  refine Flow.Alike.observed ?_ .negotiation stage
  have hfault : (c.withSecret other).config.fault? = c.config.fault? := rfl
  rw [hfault]
  split
  · exact .refl _
  · exact h.rounds endpoint choice _ _ request

theorem Conceals.token (metadata : Metadata) (request : TokenRequest) :
    Flow.Alike f ((c.withSecret other).token metadata request) (c.token metadata request) :=
  h.negotiation metadata.tokenEndpoint (c.choice? metadata) "token" c.config.maxDepth request

theorem Conceals.obtainToken (server : Url) (request : TokenRequest) :
    Flow.Alike f ((c.withSecret other).obtainToken server request)
      (c.obtainToken server request) := by
  refine Flow.Alike.bind (x := (c.withSecret other).metadata server) (.refl _) fun metadata => ?_
  split
  · exact h.token metadata request
  · exact .refl _

end Alike

end Client
end TicketGrant
