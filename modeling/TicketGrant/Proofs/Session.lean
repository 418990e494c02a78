import TicketGrant.Proofs.Obtained

/-!
# Sessions

What clients are called for, one call after another. A call is a discovery, a negotiation, or a
discovery with a negotiation behind it; so a law of both parts that is kept when the second goes on
behind the first is a law of every call (`Call.holds_play`). In the same way each call of a session
goes on behind the one before it.
-/
namespace TicketGrant

open Http Dialogue Trace

/-- What is said in a run of a discovery. -/
theorem Client.discovers_discover {σ : Type} (env : Environment σ) (c : Client) (server : Url)
    (s : σ) :
    ∃ inner, (c.discover env server s).trace =
        framed .discovery "metadata" inner (c.discover env server s).result ∧
      Discovers c server inner (c.discover env server s).result :=
  discovers_of_utters (utters_run env (c.metadata server).run s)

/-! ### Calls -/

/-- What a client can be called for. -/
inductive Call where
  | discovery (server : Url)
  | token (request : TokenRequest) (errand : Errand)

/-- What a call brings. -/
inductive Reply where
  | metadata (metadata : Metadata)
  | token (token : Token)

/-- A play that brings a reply. -/
def Dialogue.Played.replying {σ α : Type} (reply : α → Reply) (p : Played σ (Except Failure α)) :
    Played σ (Except Failure Reply) :=
  { p with result := p.result.map reply }

/-- A run of a call. -/
def Call.play {σ : Type} (env : Environment σ) (c : Client) (s : σ) :
    Call → Played σ (Except Failure Reply)
  | .discovery server => (c.discover env server s).replying .metadata
  | .token request errand => (errand.play env c request s).replying .token

/-- A law of failures and traces holds of every call if it holds of discoveries and of negotiations,
and goes on to hold when a call fails behind a discovery or negotiates behind it. -/
theorem Call.holds_play {σ : Type} {env : Environment σ} {c : Client}
    {P : Option Failure → List Turn → Prop}
    (hdiscover : ∀ server s,
      P (failure? (c.discover env server s).result) (c.discover env server s).trace)
    (hentry : ∀ (entry : Entry) request s,
      P (failure? (entry.play env c request s).result) (entry.play env c request s).trace)
    (hunsupported : ∀ server s metadata, (c.discover env server s).result = .ok metadata →
      P (some (.setup (.unsupportedGrant metadata.issuer.render ticketGrant)))
        (c.discover env server s).trace)
    (hbehind : ∀ server s metadata failed trace, (c.discover env server s).result = .ok metadata →
      P failed trace → P failed ((c.discover env server s).trace ++ trace))
    (call : Call) (s : σ) : P (failure? (call.play env c s).result) (call.play env c s).trace := by
  cases call with
  | discovery server =>
    rw [play, Played.replying, failure?_map]
    exact hdiscover server s
  | token request errand =>
    rw [play, Played.replying, failure?_map]
    cases errand with
    | negotiate entry => exact hentry entry request s
    | obtain server =>
      have hcontinues := Errand.continues_play env c request server s
      have hfound := hdiscover server s
      generalize (Errand.obtain server).play env c request s = p at hcontinues
      cases hcontinues with
      | undiscovered hresult =>
        rw [hresult] at hfound
        exact hfound
      | unsupported hresult => exact hunsupported server s _ hresult
      | negotiated hresult => exact hbehind server s _ _ _ hresult (hentry _ request _)

/-- Calls one after another, each of the client as it is by then. -/
def Session.plays {σ : Type} (env : Environment σ) :
    List (Client × Call) → σ → List (Played σ (Except Failure Reply))
  | [], _ => []
  | (c, call) :: rest, s =>
    let p := call.play env c s
    p :: plays env rest p.state

/-- All that is said in some plays. -/
def Session.trace {σ α : Type} (plays : List (Played σ α)) : List Turn := plays.flatMap (·.trace)

/-- A play of a session is the play of one of its calls. -/
theorem Session.exists_of_mem_plays {σ : Type} {env : Environment σ} {calls : List (Client × Call)}
    {s : σ} {p : Played σ (Except Failure Reply)} (h : p ∈ plays env calls s) :
    ∃ made ∈ calls, ∃ s', p = made.2.play env made.1 s' := by
  induction calls generalizing s with
  | nil => cases h
  | cons made rest ih =>
    rcases List.mem_cons.mp h with rfl | hmem
    · exact ⟨made, List.mem_cons_self, s, rfl⟩
    · obtain ⟨other, hother, hplay⟩ := ih hmem
      exact ⟨other, List.mem_cons_of_mem _ hother, hplay⟩

end TicketGrant
