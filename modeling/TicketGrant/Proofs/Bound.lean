import TicketGrant.Proofs.Credentials
import TicketGrant.Proofs.ProofText
import TicketGrant.Proofs.SharedAlgorithm

/-!
# Bound requests

Whether the requests of a client are bound is settled before the first one, and for all of them.
Without a signer or a shared algorithm none has a proof; with both, each has exactly one, in which
the method and the endpoint are read (`binding_of_play`). At a bare endpoint nothing is bound.
-/
namespace TicketGrant

open Http Dialogue Trace

/-- The first of the client's algorithms that a server names. -/
def Client.shared? (c : Client) (metadata : Metadata) : Option String :=
  c.config.algorithms.find? (· ∈ metadata.proofAlgorithms.toList)

/-- A proof binds a POST request at an endpoint to the key of a signer. -/
structure Binding.Proof.Binds (proof : Proof) (signer : Signer) (endpoint : Url) : Prop where
  alg : proof.header.alg = "ES256"
  jwk : signer.publicJwk? = some proof.header.jwk
  htm : proof.claims.htm = "POST"
  htu : proof.claims.htu = endpoint.withoutQuery.render

/-- A request has one proof, by which it is bound. Names of fields are compared without regard to
case. -/
def IsBound (signer : Binding.Signer) (endpoint : Url) (sent : Request) : Prop :=
  ∃ text proof, fieldValues sent.headers "dpop" = [Utf8.encode text] ∧
    Binding.Proof.ofText? text = some proof ∧ proof.Binds signer endpoint

/-- A run binds nothing: no request has a proof, and none is sent again. -/
structure NeverBinds {σ : Type} (p : Played σ (Except Failure Token)) : Prop where
  unbound : ∀ sending ∈ sendings p.trace, fieldValues sending.1.headers "dpop" = []
  once : ∀ round ∈ rounds p.trace, (sendings round).length ≤ 1

/-! ### The choice -/

/-- A client binds with its signer, in the first algorithm that it shares with the server. -/
theorem Client.choice?_eq_shared (c : Client) (metadata : Metadata) :
    c.choice? metadata =
      c.signer.bind fun signer =>
        (c.shared? metadata).map fun algorithm => ⟨signer, algorithm⟩ := by
  have hselect : Binding.select? metadata.algorithms? c.config.algorithms = c.shared? metadata := by
    rw [Metadata.algorithms?, shared?]
    split
    · rename_i hempty
      have hnone : metadata.proofAlgorithms.toList = [] := by
        simpa [Text.Ordered.isEmpty, Text.Ordered.toList] using hempty
      rw [hnone]
      exact (List.find?_eq_none.mpr (by simp)).symm
    · have hcontains : metadata.proofAlgorithms.contains =
          fun algorithm => decide (algorithm ∈ metadata.proofAlgorithms.toList) := by
        funext algorithm
        rw [Bool.eq_iff_iff, Text.Ordered.contains_eq_true_iff, decide_eq_true_iff]
      rw [← hcontains]
      rfl
  rw [choice?, hselect]
  cases c.signer with
  | none => rfl
  | some signer => cases c.shared? metadata <;> rfl

/-! ### One request -/

section Requests
variable {c : Client} {endpoint : Url} {choice : Option Binding.Choice} {request : TokenRequest}
  {nonce : Option String} {turns : List Turn} {sending : Request × Delivery}

theorem Sends.fieldValues_eq_nil
    (h : Sends c endpoint none request nonce turns (.ok sending)) :
    fieldValues sending.1.headers "dpop" = [] := by
  cases h with
  | sent hproof =>
    cases hproof with
    | unbound => exact c.fieldValues_dpop _ _ none

/-- What is sent with a proof is bound by it. -/
theorem Sends.isBound {used : Binding.Choice}
    (h : Sends c endpoint (some used) request nonce turns (.ok sending)) :
    IsBound used.signer endpoint sending.1 := by
  cases h with
  | sent hproof =>
    obtain ⟨text, _, proof, rfl, hread, -, hjwk, -, halgorithm, hmethod, hplace, -⟩ :=
      hproof.exists_read
    exact ⟨text, proof, c.fieldValues_dpop _ _ (some text), hread,
      ⟨halgorithm, hjwk, hmethod, hplace⟩⟩

end Requests

/-! ### Runs -/

section Runs
variable {σ : Type} (env : Environment σ) (c : Client) (request : TokenRequest) (s : σ)

theorem Entry.neverBinds_of_choice {entry : Entry} (h : entry.choice? c = none) :
    NeverBinds (entry.play env c request s) where
  unbound := by
    intro sending hmem
    obtain ⟨stage, inner, htrace, ⟨_, rfl, -⟩ | hcourse⟩ := entry.course_of_play env c request s
    all_goals rw [htrace, sendings_framed] at hmem
    · cases hmem
    · obtain ⟨_, _, _, hsends⟩ := hcourse.exists_sends hmem
      rw [h] at hsends
      exact hsends.fieldValues_eq_nil
  once := by
    intro round hmem
    obtain ⟨n, hround⟩ := List.mem_iff_getElem?.mp hmem
    rcases entry.round_of_play env c request s hround with
      ⟨-, rfl, -⟩ | ⟨current, inner, ending, -, hinner, rfl, -⟩
    · exact Nat.zero_le 1
    · have hlength := hinner.length_sendings_le
      rw [h] at hlength
      rwa [sendings_heard]

variable {c} {signer : Binding.Signer} {metadata : Metadata} (hconfig : c.config.fault? = none)
  (hsigner : c.signer = some signer) (hshared : c.shared? metadata = some es256)
include hconfig hsigner hshared

theorem Client.eq_noKey_of_shared (hkey : signer.key = none) :
    ((Entry.token metadata).play env c request s).result = .error (.signing .noKey) ∧
      sendings ((Entry.token metadata).play env c request s).trace = [] := by
  obtain ⟨inner, hsendings, hcourse⟩ := course_of_token env request s hconfig
  rw [choice?_eq_shared, hsigner, hshared] at hcourse
  have hfault (nonce : Option String) (bytes : Bytes) (now : Int) :
      signer.prove (Binding.Choice.asked ⟨signer, es256⟩ metadata.tokenEndpoint nonce) bytes now =
        .error .noKey := by
    rw [Binding.Signer.prove_eq rfl, hkey]
  obtain ⟨hresult, hnothing⟩ := hcourse.eq_signing hfault
  exact ⟨hresult, hsendings.trans hnothing⟩

theorem Client.isBound_of_shared {sending : Request × Delivery}
    (hmem : sending ∈ sendings ((Entry.token metadata).play env c request s).trace) :
    IsBound signer metadata.tokenEndpoint sending.1 := by
  obtain ⟨inner, hsendings, hcourse⟩ := course_of_token env request s hconfig
  rw [choice?_eq_shared, hsigner, hshared] at hcourse
  rw [hsendings] at hmem
  obtain ⟨_, _, _, hsends⟩ := hcourse.exists_sends hmem
  exact hsends.isBound

end Runs

theorem Sample.shared?_es256 (signer : Binding.Signer) :
    Client.shared? { signer := some signer } Sample.metadata = some es256 :=
  List.find?_cons_of_pos (decide_eq_true es256_mem_proofAlgorithms)

end TicketGrant
