import TicketGrant.Proofs.Nonce

/-!
# Shared algorithms

When a client with a signer binds its token requests. The algorithm is the first of the client's
that the server supports, but signers make proofs in one algorithm only. Where server and client
share that one, every request is bound exactly if the server supports none of those that the client
prefers to it; otherwise nothing is sent at all (`Client.eq_unsupported_of_find?`).
-/
namespace TicketGrant

open Http Dialogue Trace

/-- What a run binds to a signer: no algorithm stops it, and each request that it sends has a proof
of the signer. -/
structure BindsTo {σ : Type} (signer : Binding.Signer) (endpoint : Url)
    (p : Played σ (Except Failure Token)) : Prop where
  supported : ∀ algorithm, p.result ≠ .error (.signing (.unsupported algorithm))
  bound : ∀ sending ∈ sendings p.trace,
    ∃ nonce, Carries endpoint nonce (some ⟨signer, es256⟩) sending.1

/-! ### The choice -/

/-- The first of some texts with a property that one of them has: it stands before that one, or it
is that one. -/
theorem find?_eq_getD {p : String → Bool} {x : String} (hx : p x = true) {xs : List String}
    (hmem : x ∈ xs) : xs.find? p = some (((xs.takeWhile (· != x)).find? p).getD x) := by
  induction xs with
  | nil => cases hmem
  | cons y ys ih =>
    by_cases hy : y = x
    · simp [hy, hx]
    · have hys : x ∈ ys := (List.mem_cons.mp hmem).resolve_left (Ne.symm hy)
      cases hp : p y with
      | true => simp [hy, hp]
      | false => simpa [hy, hp] using ih hys

/-- The algorithms that a client prefers to that of signers. -/
def Config.preferred (config : Config) : List String := config.algorithms.takeWhile (· != es256)

theorem Config.ne_of_mem_preferred {config : Config} {algorithm : String}
    (h : algorithm ∈ config.preferred) : algorithm ≠ es256 := by
  simpa using List.all_eq_true.mp List.all_takeWhile algorithm h

section Choice
variable {c : Client} {signer : Binding.Signer} {metadata : Metadata}

/-- Of the algorithms that server and client share, the first that the client names is chosen. -/
theorem Client.choice?_eq (hsigner : c.signer = some signer)
    (hserver : es256 ∈ metadata.proofAlgorithms.toList) (hclient : es256 ∈ c.config.algorithms) :
    c.choice? metadata =
      some ⟨signer, (c.config.preferred.find? metadata.proofAlgorithms.contains).getD es256⟩ := by
  have hnamed : metadata.algorithms? = some metadata.proofAlgorithms := by
    rw [Metadata.algorithms?, if_neg]
    intro hempty
    simp_all [Text.Ordered.isEmpty, Text.Ordered.toList]
  have hselect : Binding.select? metadata.algorithms? c.config.algorithms =
      some ((c.config.preferred.find? metadata.proofAlgorithms.contains).getD es256) := by
    rw [hnamed]
    exact find?_eq_getD (Text.Ordered.contains_eq_true_iff.mpr hserver) hclient
  exact choice?_of_select hsigner hselect

end Choice

/-! ### Faults of signing -/

namespace Binding.Signer
variable {s : Signer} {r : ProofRequest} {draw : Bytes} {now : Int}

theorem prove_of_ne (h : r.algorithm ≠ es256) :
    s.prove r draw now = .error (.unsupported r.algorithm) := if_pos h

/-- In its own algorithm a signer makes proofs, unless it has no key or the key makes no
signature. -/
theorem ne_unsupported (h : r.algorithm = es256) (algorithm : String) :
    s.prove r draw now ≠ .error (.unsupported algorithm) := by
  rw [prove_eq h]
  split
  · intro hfault
    cases fault_of_signed hfault
  · rintro ⟨⟩

end Binding.Signer

section Course
variable {c : Client} {endpoint : Url} {choice : Option Binding.Choice} {request : TokenRequest}
  {nonce : Option String} {turns : List Turn} {budget remaining : Nat}
  {fault : Binding.SigningFault}

/-- A proof for a request is wanted, and the signer does not make it. -/
def Unsigned (endpoint : Url) (choice : Option Binding.Choice) (fault : Binding.SigningFault) :
    Prop :=
  ∃ used nonce bytes now, choice = some used ∧
    used.signer.prove (used.asked endpoint nonce) bytes now = .error fault

theorem Exchanges.unsigned_of_signing
    (h : Exchanges c endpoint choice request turns (.error (.signing fault))) :
    Unsigned endpoint choice fault := by
  obtain ⟨_, _, hsends⟩ := h.exists_sends_of_error
  cases hsends with
  | unsigned hused hfault => exact ⟨_, _, _, _, hused, hfault⟩

/-- A negotiation that fails for want of a proof is one in which the signer makes none. -/
theorem Course.unsigned_of_signing
    (h : Course c endpoint choice budget remaining request turns (.error (.signing fault))) :
    Unsigned endpoint choice fault := by
  generalize hresult : Except.error (Failure.signing fault) = result at h
  -- a round that is followed by another has met a demand, so the last one decides
  induction h with
  | last hlast =>
    subst hresult
    cases hlast with
    | unsent hx => exact hx.unsigned_of_signing
    | settled _ hsettles => exact absurd rfl hsettles.ne_signing
  | more _ _ ih => exact ih hresult

/-! ### Signers that make no proof -/

variable {used : Binding.Choice} (hfault : ∀ nonce bytes now,
  used.signer.prove (used.asked endpoint nonce) bytes now = .error fault)
include hfault

/-- Without a proof the request is not sent. -/
theorem Sends.eq_signing {outcome : Except Failure (Request × Delivery)}
    (h : Sends c endpoint (some used) request nonce turns outcome) :
    outcome = .error (.signing fault) := by
  cases h with
  | unsigned hused hunsigned =>
    cases hused
    rw [hfault] at hunsigned
    cases hunsigned
    rfl
  | unbuilt hproof | sent hproof =>
    cases hproof with
    | bound hprove =>
      rw [hfault] at hprove
      cases hprove

theorem Exchanges.eq_signing {outcome : Except Failure Delivery}
    (h : Exchanges c endpoint (some used) request turns outcome) :
    outcome = .error (.signing fault) ∧ sendings turns = [] := by
  cases h with
  | unsent hfirst =>
    cases hfirst.eq_signing hfault
    exact ⟨rfl, hfirst.sendings_eq⟩
  | once hfirst | again hfirst => cases hfirst.eq_signing hfault

theorem Round.eq_signing {ending : Ending}
    (h : Round c endpoint (some used) budget remaining request turns ending) :
    ending = .ended (.error (.signing fault)) ∧ sendings turns = [] := by
  cases h with
  | unsent hx =>
    obtain ⟨hfailure, hnone⟩ := hx.eq_signing hfault
    cases hfailure
    exact ⟨rfl, hnone⟩
  | settled hx => cases (hx.eq_signing hfault).1

/-- If the signer makes no proof for the endpoint, nothing is sent, and that is the end of the
negotiation. -/
theorem Course.eq_signing {result : Except Failure Token}
    (h : Course c endpoint (some used) budget remaining request turns result) :
    result = .error (.signing fault) ∧ sendings turns = [] := by
  cases h with
  | last hlast =>
    obtain ⟨hended, hnone⟩ := hlast.eq_signing hfault
    cases hended
    exact ⟨rfl, hnone⟩
  | more hmet => cases (hmet.eq_signing hfault).1

end Course

/-! ### Runs -/

section Run
variable {σ : Type} (env : Environment σ) {c : Client} (request : TokenRequest) (s : σ)
  {signer : Binding.Signer} {metadata : Metadata} (hconfig : c.config.fault? = none)
include hconfig

/-- A run with a server's metadata, under a configuration without fault. -/
theorem Client.course_of_token :
    ∃ inner, sendings ((Entry.token metadata).play env c request s).trace = sendings inner ∧
      Course c metadata.tokenEndpoint (c.choice? metadata) c.config.maxDepth.toNat
        c.config.maxDepth.toNat request inner
        ((Entry.token metadata).play env c request s).result := by
  have hutters := utters_run env (c.token metadata request).run s
  obtain ⟨inner, htrace, ⟨_, hfault, -⟩ | ⟨-, hcourse⟩⟩ := negotiation_of_utters hutters
  · rw [hconfig] at hfault
    cases hfault
  · exact ⟨inner, (congrArg sendings htrace).trans sendings_framed, hcourse⟩

variable (hsigner : c.signer = some signer) (hserver : es256 ∈ metadata.proofAlgorithms.toList)
  (hclient : es256 ∈ c.config.algorithms)
include hsigner hserver hclient

/-- If the server supports none that is preferred, the client binds what it sends. -/
theorem Client.bindsTo_of_find?_eq_none
    (hfound : c.config.preferred.find? metadata.proofAlgorithms.contains = none) :
    BindsTo signer metadata.tokenEndpoint ((Entry.token metadata).play env c request s) := by
  obtain ⟨inner, hsendings, hcourse⟩ := course_of_token env request s hconfig
  rw [choice?_eq hsigner hserver hclient, hfound] at hcourse
  constructor
  · intro algorithm hresult
    rw [hresult] at hcourse
    obtain ⟨_, _, _, _, hused, hfault⟩ := hcourse.unsigned_of_signing
    cases hused
    exact Binding.Signer.ne_unsupported rfl algorithm hfault
  · intro sending hmem
    rw [hsendings] at hmem
    obtain ⟨_, nonce, _, hsends⟩ := hcourse.exists_sends hmem
    exact ⟨nonce, hsends.carries⟩

/-- If it supports one that is preferred, the client fails with it. -/
theorem Client.eq_unsupported_of_find? {algorithm : String}
    (hfound : c.config.preferred.find? metadata.proofAlgorithms.contains = some algorithm) :
    ((Entry.token metadata).play env c request s).result =
        .error (.signing (.unsupported algorithm)) ∧
      sendings ((Entry.token metadata).play env c request s).trace = [] := by
  obtain ⟨inner, hsendings, hcourse⟩ := course_of_token env request s hconfig
  rw [choice?_eq hsigner hserver hclient, hfound] at hcourse
  have hne := Config.ne_of_mem_preferred (List.mem_of_find?_eq_some hfound)
  have hfault (nonce : Option String) (bytes : Bytes) (now : Int) :
      signer.prove (Binding.Choice.asked ⟨signer, algorithm⟩ metadata.tokenEndpoint nonce) bytes
        now = .error (.unsupported algorithm) := Binding.Signer.prove_of_ne hne
  obtain ⟨hresult, hnothing⟩ := hcourse.eq_signing hfault
  exact ⟨hresult, hsendings.trans hnothing⟩

end Run

/-- A client whose signer's algorithm is shared binds its requests exactly if the server supports no
algorithm that the client prefers to it. Otherwise it fails with such an algorithm, and nothing is
sent. -/
theorem bindsTo_iff_of_shared {σ : Type} (env : Environment σ) (c : Client)
    (request : TokenRequest) (s : σ) (signer : Binding.Signer) (metadata : Metadata)
    (hconfig : c.config.fault? = none) (hsigner : c.signer = some signer)
    (hserver : es256 ∈ metadata.proofAlgorithms.toList) (hclient : es256 ∈ c.config.algorithms) :
    let p := (Entry.token metadata).play env c request s
    (BindsTo signer metadata.tokenEndpoint p ↔
      ∀ algorithm ∈ c.config.preferred, algorithm ∉ metadata.proofAlgorithms.toList) ∧
    (¬ BindsTo signer metadata.tokenEndpoint p →
      ∃ algorithm ∈ c.config.preferred, algorithm ∈ metadata.proofAlgorithms.toList ∧
        p.result = .error (.signing (.unsupported algorithm)) ∧ sendings p.trace = []) := by
  intro p
  cases hfound : c.config.preferred.find? metadata.proofAlgorithms.contains with
  | none =>
    have hbinds :=
      Client.bindsTo_of_find?_eq_none env request s hconfig hsigner hserver hclient hfound
    have hnone : ∀ algorithm ∈ c.config.preferred,
        algorithm ∉ metadata.proofAlgorithms.toList := by
      simpa using List.find?_eq_none.mp hfound
    exact ⟨iff_of_true hbinds hnone, fun hnot => absurd hbinds hnot⟩
  | some algorithm =>
    have hpreferred := List.mem_of_find?_eq_some hfound
    have hsupported := Text.Ordered.contains_eq_true_iff.mp (List.find?_some hfound)
    obtain ⟨hresult, hnothing⟩ :=
      Client.eq_unsupported_of_find? env request s hconfig hsigner hserver hclient hfound
    exact ⟨iff_of_false (fun hbinds => hbinds.supported algorithm hresult)
      fun hall => hall algorithm hpreferred hsupported,
      fun _ => ⟨algorithm, hpreferred, hsupported, hresult, hnothing⟩⟩

/-! ### Two orders of preference -/

namespace Sample

/-- A client with the signer, and some algorithms in order of preference. -/
def signing (algorithms : List String) : Client where
  config := { algorithms }
  signer := some signer

end Sample

/-- An algorithm that the server does not support is passed over, and the request is bound. -/
theorem bindsTo_of_passed_over :
    let p := (Entry.token Sample.metadata).play Script.environment
      (Sample.signing ["EdDSA", "ES256"]) { ticket := "first" } (Sample.script [Sample.grant])
    (sendings p.trace).length = 1 ∧ BindsTo Sample.signer Sample.endpoint p := by
  intro p
  refine ⟨Sample.length_sendings_of_grant (by decide)
    (Client.choice?_of_select rfl (by decide +kernel)), ?_⟩
  refine (bindsTo_iff_of_shared _ (Sample.signing ["EdDSA", "ES256"]) _ _ _ Sample.metadata
    (by decide) rfl Sample.es256_mem_proofAlgorithms (by decide)).1.mpr fun algorithm hpreferred hsupported => ?_
  obtain rfl : algorithm = "EdDSA" := List.mem_singleton.mp hpreferred
  exact absurd (Text.Ordered.mem_toList_ofList.mp hsupported) (by decide)

/-- One that it supports stops the client, though both know the algorithm of the signer too. -/
theorem unsupported_of_preferred :
    (Sample.signing ["RS256", "ES256"]).config.fault? = none ∧
      Sample.signer.key.isSome = true ∧
      (Sample.signing ["RS256", "ES256"]).signer = some Sample.signer ∧
      es256 ∈ Sample.metadata.proofAlgorithms.toList ∧
      es256 ∈ (Sample.signing ["RS256", "ES256"]).config.algorithms ∧
      ((Entry.token Sample.metadata).play Script.environment (Sample.signing ["RS256", "ES256"])
          { ticket := "first" } (Sample.script [Sample.grant])).result =
        .error (.signing (.unsupported "RS256")) := by
  have hserver := Sample.es256_mem_proofAlgorithms
  have hfound : (Sample.signing ["RS256", "ES256"]).config.preferred.find?
      Sample.metadata.proofAlgorithms.contains = some "RS256" := by
    have hsupported : Sample.metadata.proofAlgorithms.contains "RS256" = true :=
      Text.Ordered.contains_eq_true_iff.mpr (Text.Ordered.mem_toList_ofList.mpr (by decide))
    exact List.find?_cons_of_pos hsupported
  exact ⟨by decide, rfl, rfl, hserver, by decide,
    (Client.eq_unsupported_of_find? _ _ _ (by decide) rfl hserver (by decide) hfound).1⟩

end TicketGrant
