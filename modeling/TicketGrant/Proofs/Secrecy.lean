import TicketGrant.Proofs.Crypto.Ecdsa
import TicketGrant.Proofs.InStep
import TicketGrant.Proofs.SharedAlgorithm

/-!
# Secrecy

What a client comes to, and what is seen of it, does not tell its secrets. Two clients under one
configuration are in step whatever they present, whoever they are and whichever keys they hold: no
text of theirs is the reason why a request cannot be built, and none gets into a failure. So against
answers that are the same their results and observations are the same (`indistinct_of_plays`).
-/
namespace TicketGrant

open Http Dialogue Trace

/-! ### Signers -/

namespace Binding

/-- A signer with a key has a public one. -/
theorem Signer.isSome_publicJwk? (s : Signer) : s.publicJwk?.isSome = s.key.isSome := by
  rw [publicJwk?]
  cases s.key with
  | none => rfl
  | some key =>
    obtain ⟨point, hpoint⟩ := Option.isSome_iff_exists.mp key.isSome_publicPoint?
    simp [hpoint]

/-- A signer with a key can only fail to sign. -/
theorem Signer.eq_noSignature_of_key {s : Signer} (hkey : s.key.isSome = true) {r : ProofRequest}
    (halgorithm : r.algorithm = es256) {draw : Bytes} {now : Int} {fault : SigningFault}
    (h : s.prove r draw now = .error fault) : fault = .noSignature := by
  obtain ⟨key, hkey'⟩ := Option.isSome_iff_exists.mp hkey
  rw [← s.isSome_publicJwk?] at hkey
  obtain ⟨jwk, hjwk⟩ := Option.isSome_iff_exists.mp hkey
  rw [prove_eq halgorithm, hkey', hjwk] at h
  exact fault_of_signed h

/-- The key of the signer makes no signature of some message. -/
inductive Signer.LacksSignature (s : Signer) : Prop
  /-- The secret factor for the message makes no signature. -/
  | refuses {key message} : s.key = some key → Ecdsa.Refuses key message → s.LacksSignature
  /-- The search for a secret factor was given up, where one without an end goes on. -/
  | runsOut {key message} : s.key = some key → Ecdsa.RunsOut key message → s.LacksSignature

theorem Signer.lacksSignature_of_prove {s : Signer} {r : ProofRequest} {draw : Bytes} {now : Int}
    (h : s.prove r draw now = .error .noSignature) : s.LacksSignature := by
  by_cases halgorithm : r.algorithm = es256
  · rw [prove_eq halgorithm] at h
    split at h
    · rename_i key jwk hkey hjwk
      rw [signed] at h
      generalize Utf8.encode (signingInput (.ofKey jwk) (r.claims draw now)) = message at h
      cases hsign : Ecdsa.sign? key message with
      | none =>
        rcases Ecdsa.sign?_eq_none_iff.mp hsign with hrefuses | hrunsOut
        · exact .refuses hkey hrefuses
        · exact .runsOut hkey hrunsOut
      | some signature =>
        rw [hsign] at h
        cases h
    · cases h
  · rw [prove_of_ne halgorithm] at h
    cases h

/-- Two signers: both hold a key, or neither does. -/
def Signer.Resembles (s s' : Signer) : Prop := s.key.isSome = s'.key.isSome

/-- Two choices of the same algorithm. -/
structure Choice.Resembles (choice choice' : Choice) : Prop where
  signer : choice.signer.Resembles choice'.signer
  algorithm : choice.algorithm = choice'.algorithm

/-- Two signers make proofs for requests in one algorithm, or give the same reason not to; but one
of the keys may make no signature. -/
theorem Signer.Resembles.inStep_prove {s s' : Signer} (h : s.Resembles s') {r r' : ProofRequest}
    (halgorithm : r.algorithm = r'.algorithm) (draw draw' : Bytes) (now : Int) :
    Flow.InStep (fun text text' => IsVisible text ∧ IsVisible text')
      (Flow.ofExcept .signing (s.prove r draw now))
      (Flow.ofExcept .signing (s'.prove r' draw' now)) := by
  by_cases hes256 : r.algorithm = es256
  · have hes256' : r'.algorithm = es256 := halgorithm.symm.trans hes256
    cases hkey : s.key.isSome with
    | false =>
      have hnone : s.key = none := by simpa using hkey
      have hnone' : s'.key = none := by simpa using h.symm.trans hkey
      rw [prove_eq hes256, prove_eq hes256', hnone, hnone']
      exact .done .error
    | true =>
      have hkey' : s'.key.isSome = true := h.symm.trans hkey
      cases htext : s.prove r draw now with
      | error fault =>
        cases eq_noSignature_of_key hkey hes256 htext
        exact .first
      | ok text =>
        cases htext' : s'.prove r' draw' now with
        | error fault =>
          cases eq_noSignature_of_key hkey' hes256' htext'
          exact .second
        | ok text' => exact .done (.ok ⟨isVisible_of_prove htext, isVisible_of_prove htext'⟩)
  · have hne : r'.algorithm ≠ es256 := fun heq => hes256 (halgorithm.trans heq)
    rw [prove_of_ne hes256, prove_of_ne hne, halgorithm]
    exact .done .error

end Binding

/-! ### Clients -/

/-- Two clients that may differ in who they are, in what is secret to them and in their keys. -/
structure Client.Resembles (c c' : Client) : Prop where
  config : c.config = c'.config
  codec : c.codec = c'.codec
  signer : Option.Rel Binding.Signer.Resembles c.signer c'.signer

namespace Client

/-- A proof that may be sent, or none. -/
def Sendable (proof : Option String) : Prop := ∀ text, proof = some text → IsVisible text

theorem inStep_proof (endpoint : Url) {choice choice' : Option Binding.Choice}
    (h : Option.Rel Binding.Choice.Resembles choice choice') (nonce : Option String) :
    Flow.InStep (fun p p' => Sendable p ∧ Sendable p') (proof endpoint choice nonce)
      (proof endpoint choice' nonce) := by
  cases h with
  | none =>
    have hnone : Sendable none := fun text htext => by cases htext
    exact Flow.inStep_pure ⟨hnone, hnone⟩
  | @some used used' h =>
    refine Flow.inStep_draw.bind fun draw draw' _ => Flow.inStep_now.bind fun now now' hnow => ?_
    subst hnow
    refine (h.signer.inStep_prove h.algorithm draw draw' now.unixSeconds).bind
      fun text text' ⟨htext, htext'⟩ => Flow.inStep_pure ⟨?_, ?_⟩
    · rintro _ ⟨⟩
      exact htext
    · rintro _ ⟨⟩
      exact htext'

/-- What an answer to a demand comes to is the same but for the claim. -/
theorem inStep_meet (remaining : Nat) (challenge : Challenge) :
    Flow.InStep (fun _ _ => True) (meet remaining challenge) (meet remaining challenge) := by
  refine (Flow.inStep_observe _).bind fun _ _ _ => (Flow.inStep_observe _).bind fun _ _ _ =>
    (Flow.inStep_resolve challenge).bind fun resolution resolution' hkind => ?_
  cases hkind with
  | claim => exact .done (.ok trivial)
  | nothing => exact .done .error
  | @abort abort abort' hmessage =>
    rw [Resolution.claimToken, Resolution.claimToken, hmessage]
    exact .done .error

/-- A round is settled in step, if the rounds after it are in step. -/
theorem inStep_settle (c : Client) (budget : Nat) (request request' : TokenRequest)
    {next next' : Nat → TokenRequest → Flow Token} (response : Response) (remaining : Nat)
    (hnext : ∀ left request request', remaining = left + 1 →
      Flow.InStep Eq (next left request) (next' left request')) :
    Flow.InStep Eq (c.settle budget request next response remaining)
      (c.settle budget request' next' response remaining) := by
  unfold settle
  split
  · refine Flow.inStep_now.bind fun now now' hnow => ?_
    subst hnow
    exact Flow.inStep_ofExcept _ _
  split
  · exact Flow.inStep_throw _
  cases remaining with
  | zero => exact Flow.inStep_throw _
  | succ left =>
    refine (Flow.inStep_ofExcept _ _).bind fun challenge _ hchallenge => ?_
    subst hchallenge
    exact (inStep_meet _ challenge).bind fun _ _ _ => hnext left _ _ rfl

namespace Resembles
variable {c c' : Client} (h : c.Resembles c')
include h

/-- How an answer is settled depends on configuration and codec alone. -/
theorem settle_eq : c.settle = c'.settle := by
  obtain ⟨config, codec, _, _, _⟩ := c
  obtain ⟨hconfig, hcodec, -⟩ := h
  subst hconfig hcodec
  rfl

theorem demandedNonce?_eq : c.demandedNonce? = c'.demandedNonce? := by
  obtain ⟨config, codec, _, _, _⟩ := c
  obtain ⟨hconfig, hcodec, -⟩ := h
  subst hconfig hcodec
  rfl

theorem choice? (metadata : Metadata) :
    Option.Rel Binding.Choice.Resembles (c.choice? metadata) (c'.choice? metadata) := by
  have hsigner := h.signer
  rw [Client.choice?, Client.choice?, h.config]
  generalize c.signer = signer at hsigner ⊢
  generalize c'.signer = signer' at hsigner ⊢
  cases hsigner with
  | none => exact .none
  | some hsigner =>
    cases Binding.select? metadata.algorithms? c'.config.algorithms with
    | none => exact .none
    | some algorithm => exact .some ⟨hsigner, rfl⟩

variable (endpoint : Url) {choice choice' : Option Binding.Choice}
  (hchoice : Option.Rel Binding.Choice.Resembles choice choice')
include hchoice

omit h in
theorem sendOnce (request request' : TokenRequest) (nonce : Option String) :
    Flow.InStep Eq (c.sendOnce endpoint choice request nonce)
      (c'.sendOnce endpoint choice' request' nonce) := by
  refine (inStep_proof endpoint hchoice nonce).bind fun proof proof' ⟨hproof, hproof'⟩ => ?_
  refine (Flow.inStep_ofExcept _ _).bind fun target _ htarget => ?_
  subst htarget
  -- whatever is presented, it can be built
  rw [c.checked_httpRequest target request hproof, c'.checked_httpRequest target request' hproof']
  refine (Flow.inStep_send _ _).bind fun answer _ hanswer => ?_
  subst hanswer
  exact Flow.inStep_ofExcept _ _

theorem exchange (request request' : TokenRequest) :
    Flow.InStep Eq (c.exchange endpoint choice request)
      (c'.exchange endpoint choice' request') := by
  refine (sendOnce endpoint hchoice request request' none).bind fun response _ hresponse => ?_
  subst hresponse
  rw [h.demandedNonce?_eq]
  cases hchoice with
  | none => exact Flow.inStep_pure rfl
  | @some used used' hused =>
    cases c'.demandedNonce? response with
    | none => exact Flow.inStep_pure rfl
    | some nonce =>
      dsimp only
      rw [hused.algorithm]
      exact (Flow.inStep_observe _).bind fun _ _ _ => (Flow.inStep_observe _).bind fun _ _ _ =>
        sendOnce endpoint (.some hused) request request' (some nonce)

theorem rounds (budget remaining : Nat) (request request' : TokenRequest) :
    Flow.InStep Eq (c.rounds endpoint choice budget remaining request)
      (c'.rounds endpoint choice' budget remaining request') := by
  -- on the budget: the rounds behind one have less of it, and other requests
  induction remaining generalizing request request' with
  | zero =>
    rw [rounds_eq, rounds_eq, h.settle_eq]
    refine (h.exchange endpoint hchoice request request').bind fun response _ hresponse => ?_
    subst hresponse
    exact c'.inStep_settle budget request request' response 0 fun _ _ _ hleft => by cases hleft
  | succ left ih =>
    rw [rounds_eq, rounds_eq, h.settle_eq]
    refine (h.exchange endpoint hchoice request request').bind fun response _ hresponse => ?_
    subst hresponse
    refine c'.inStep_settle budget request request' response (left + 1)
      fun _ current current' hleft => ?_
    cases hleft
    exact ih current current'

end Resembles

end Client

/-! ### Runs -/

section Runs
variable {σ τ : Type} {R : σ → τ → Prop} {env : Environment σ} {env' : Environment τ}
  (henv : Environment.InStep R env env') {c c' : Client} (h : c.Resembles c')
  (request request' : TokenRequest) {s : σ} {s' : τ} (hstate : R s s')
include henv h hstate

theorem Client.Resembles.negotiation (stage : String) (endpoint : Url)
    {choice choice' : Option Binding.Choice}
    (hchoice : Option.Rel Binding.Choice.Resembles choice choice') (budget : UInt32) :
    Flow.Indistinct .negotiation
      ((c.negotiation stage endpoint choice budget request).run.run env s)
      ((c'.negotiation stage endpoint choice' budget request').run.run env' s') := by
  refine Flow.InStep.indistinct_observed henv ?_ hstate
  rw [h.config]
  cases c'.config.fault? with
  | some fault => exact Flow.inStep_throw _
  | none => exact h.rounds endpoint hchoice budget.toNat budget.toNat request request'

theorem Client.Resembles.play (entry : Entry) :
    Flow.Indistinct .negotiation (entry.play env c request s)
      (entry.play env' c' request' s') := by
  cases entry with
  | negotiate endpoint budget =>
    exact h.negotiation henv request request' hstate "negotiate" endpoint .none budget
  | token metadata =>
    have hbudget : c.config.maxDepth = c'.config.maxDepth := by rw [h.config]
    rw [Entry.play, Entry.play, Entry.flow, Entry.flow, Client.token, Client.token, hbudget]
    exact h.negotiation henv request request' hstate "token" metadata.tokenEndpoint
      (h.choice? metadata) c'.config.maxDepth

end Runs

theorem Client.signer_of_choice? {c : Client} {metadata : Metadata} {used : Binding.Choice}
    (h : c.choice? metadata = some used) : c.signer = some used.signer := by
  simp only [choice?, Option.bind_eq_bind, Option.bind_eq_some_iff, Option.some.injEq] at h
  obtain ⟨signer, hsigner, _, -, rfl⟩ := h
  exact hsigner

/-- The signer of the client lacks a signature. -/
def Client.LacksSignature (c : Client) : Prop :=
  ∃ signer, c.signer = some signer ∧ signer.LacksSignature

theorem Entry.lacksSignature_of_unsigned {σ : Type} {env : Environment σ} {c : Client}
    {request : TokenRequest} {s : σ} {entry : Entry}
    (h : (entry.play env c request s).result = unsigned) : c.LacksSignature := by
  obtain ⟨_, _, -, ⟨_, -, hfault⟩ | hcourse⟩ := entry.course_of_play env c request s
  · rw [h] at hfault
    cases hfault
  · rw [h, unsigned] at hcourse
    obtain ⟨used, _, _, _, hused, hfault⟩ := hcourse.unsigned_of_signing
    refine ⟨used.signer, ?_, Binding.Signer.lacksSignature_of_prove hfault⟩
    cases entry with
    | negotiate endpoint budget => cases hused
    | token metadata => exact Client.signer_of_choice? hused

/-- Two clients under one configuration negotiate at one entry. Whatever they are called, present
and keep secret, they come to the same result and are seen to do the same, if both of them or
neither hold a key, and if what they are answered is the same but for the claims. There is one way
out, a message of which a key makes no signature: this ends its run, and up to then the same is
seen. -/
theorem indistinct_of_plays {σ τ : Type} {R : σ → τ → Prop} (env : Environment σ)
    (env' : Environment τ) (henv : Environment.InStep R env env') (c c' : Client)
    (hclients : c.Resembles c') (request request' : TokenRequest) (entry : Entry) (s : σ) (s' : τ)
    (hstate : R s s') :
    let p := entry.play env c request s
    let q := entry.play env' c' request' s'
    (p.result = q.result ∧ observations p.trace = observations q.trace) ∨
      (c.LacksSignature ∧ Flow.Falters .negotiation p q) ∨
      (c'.LacksSignature ∧ Flow.Falters .negotiation q p) := by
  intro p q
  cases hclients.play henv request request' hstate entry with
  | same hresult hseen => exact .inl ⟨hresult, hseen⟩
  | first hfalters =>
    exact .inr (.inl ⟨Entry.lacksSignature_of_unsigned hfalters.result, hfalters⟩)
  | second hfalters =>
    exact .inr (.inr ⟨Entry.lacksSignature_of_unsigned hfalters.result, hfalters⟩)

/-! ### Scripts -/

/-- Two scripts that differ in the claims at most. -/
structure Script.Resembles (s s' : Script) : Prop where
  deliveries : s.deliveries = s'.deliveries
  resolutions : List.Forall₂ Resolution.SameKind s.resolutions s'.resolutions
  clock : s.clock = s'.clock

theorem Script.sameKind_pop {xs ys : List Resolution} (h : List.Forall₂ Resolution.SameKind xs ys) :
    (pop exhaustedResolution xs).1.SameKind (pop exhaustedResolution ys).1 ∧
      List.Forall₂ Resolution.SameKind (pop exhaustedResolution xs).2
        (pop exhaustedResolution ys).2 := by
  cases h with
  | nil => exact ⟨.abort rfl, .nil⟩
  | cons hkind hrest => exact ⟨hkind, hrest⟩

/-- Environments answer alike if their scripts do. -/
theorem Script.inStep_environment : Environment.InStep Resembles environment environment where
  send _ _ s s' h := by
    obtain ⟨deliveries, resolutions, clock, drawn⟩ := s
    obtain ⟨rfl, hresolutions, hclock⟩ := h
    exact ⟨_, _, _, rfl, rfl, rfl, hresolutions, hclock⟩
  explain _ _ s s' h := ⟨_, _, _, rfl, rfl, h⟩
  resolve _ s s' h := by
    obtain ⟨hkind, hrest⟩ := sameKind_pop h.resolutions
    exact ⟨_, _, _, _, rfl, rfl, hkind, h.deliveries, hrest, h.clock⟩
  now s s' h := by
    obtain ⟨deliveries, resolutions, clock, drawn⟩ := s
    obtain ⟨hdeliveries, hresolutions, rfl⟩ := h
    exact ⟨_, _, _, rfl, rfl, hdeliveries, hresolutions, rfl⟩
  draw s s' h := ⟨_, _, _, _, rfl, rfl, h.deliveries, h.resolutions, h.clock⟩

namespace Sample

/-- Another signer, with the last of the keys. -/
def otherSigner : Binding.Signer := ⟨some ⟨P256.order - 1, by decide, by decide⟩⟩

theorem publicJwk?_otherSigner :
    otherSigner.publicJwk? =
      some (.ofPoint P256.Point.generator.x (P256.prime - P256.Point.generator.y)) := by
  decide +kernel

theorem signs_second : Signs signer none 1 :=
  Proves.exists_of_sign rfl rfl publicJwk?_signer (by decide +kernel)

theorem otherSigner_signs_first : Signs otherSigner none 7 :=
  Proves.exists_of_sign rfl rfl publicJwk?_otherSigner (by decide +kernel)

theorem otherSigner_signs_second : Signs otherSigner none 8 :=
  Proves.exists_of_sign rfl rfl publicJwk?_otherSigner (by decide +kernel)

theorem exists_demands {c : Client} (hcodec : c.codec = .plain) :
    ∃ response challenge, (demand "second").outcome = .ok response ∧
      c.Demands response challenge := by
  have hcode : (Refusal.ofBody .plain (Utf8.encode
      ("\x7b\"error\":\"need_info\",\"ticket\":\"" ++ "second" ++ "\"\x7d"))).code =
        "need_info" := by
    decide +kernel
  have hchallenge : (Challenge.ofBody? .plain (Utf8.encode
      ("\x7b\"error\":\"need_info\",\"ticket\":\"" ++ "second" ++ "\"\x7d"))
        (some ⟨403⟩)).isSome = true := by
    decide +kernel
  obtain ⟨challenge, hchallenge⟩ := Option.isSome_iff_exists.mp hchallenge
  rw [← hcodec] at hcode hchallenge
  exact ⟨_, challenge, rfl, ⟨by decide, hcode⟩, hchallenge⟩

/-- The answer with a token is read alike by all clients that read plainly. -/
theorem token_of_grant {c : Client} {response : Response} (hconfig : c.config = {})
    (hcodec : c.codec = .plain) (h : grant.outcome = .ok response) :
    ((c.tokenIn response .epoch).mapError Failure.exchange).toOption.map
      (·.accessToken.expose) = some "rpt" := by
  have hdefault : c.tokenIn response .epoch = Client.tokenIn {} response .epoch := by
    rw [Client.tokenIn_eq, Client.tokenIn_eq, hconfig, hcodec]
  rw [hdefault]
  cases h
  decide +kernel

/-- With both proofs of its signer, a client meets a demand and gets a token. -/
theorem token_of_signs {c : Client} {signer : Binding.Signer} (request : TokenRequest) {s : Script}
    {claim : ClaimToken} {more : List Resolution} (hconfig : c.config = {})
    (hcodec : c.codec = .plain) (hsigner : c.signer = some signer)
    (hdeliveries : s.deliveries = [demand "second", grant])
    (hresolutions : s.resolutions = .claim claim :: more) (hclock : s.clock = .epoch)
    (hfirst : Signs signer none s.drawn) (hsecond : Signs signer none (s.drawn + 1)) :
    let p := (Entry.token metadata).play Script.environment c request s
    (∃ text second, sendings p.trace =
      [(c.httpRequest target request (some text), demand "second"), second]) ∧
      p.result.toOption.map (·.accessToken.expose) = some "rpt" := by
  intro p
  obtain ⟨config, codec, clientId, clientSecret, _⟩ := c
  obtain ⟨deliveries, resolutions, clock, drawn⟩ := s
  dsimp only at hconfig hcodec hsigner hdeliveries hresolutions hclock hfirst hsecond
  subst hconfig hcodec hsigner hdeliveries hresolutions hclock
  let c : Client := ⟨{}, .plain, clientId, clientSecret, some signer⟩
  have hchoice : c.choice? metadata = some ⟨signer, es256⟩ :=
    Client.choice?_of_select rfl select?_es256
  obtain ⟨text, hfirst⟩ := hfirst
  obtain ⟨text', hsecond⟩ := hsecond
  obtain ⟨response, challenge, hresponse, hdemands⟩ := exists_demands (c := c) rfl
  cases hresponse
  have hmet : Round c endpoint (some ⟨signer, es256⟩) 5 5 request _ (.met challenge claim) :=
    .settled (hfirst.exchanges ofUrl_endpoint c _ (demand "second") rfl rfl)
      (.met hdemands (by decide))
  have hlast : Round c endpoint (some ⟨signer, es256⟩) 5 4
      (request.nextRound challenge.ticket claim) _ (.ended _) :=
    .settled (hsecond.exchanges ofUrl_endpoint c _ grant rfl rfl)
      (Client.settles_tokenIn rfl .epoch)
  have hcourse := Course.more hmet (.last hlast)
  rw [← hchoice] at hcourse
  have hfault : Config.fault? {} = none := by decide
  have hplay : p = ⟨_, _, framed .negotiation "token" _ _⟩ :=
    Client.play_token_eq hfault hcourse
      ⟨_, rfl, _, rfl, _, rfl, _, rfl, _, rfl, _, rfl, _, rfl, _, rfl, _, rfl, _, rfl, rfl⟩
  have htoken : ((c.tokenIn _ .epoch).mapError Failure.exchange).toOption.map
      (·.accessToken.expose) = some "rpt" := token_of_grant rfl rfl rfl
  rw [hplay, sendings_framed]
  exact ⟨⟨text, _, rfl⟩, htoken⟩

end Sample

/-- A client with an identifier, a secret and a key finds a claim, and so does one that has only
another key: they send different requests, each with its own proofs, and get one token, and nobody
sees a difference. -/
theorem indistinct_of_sample_plays :
    let c : Client :=
      { clientId := some "app", clientSecret := some ⟨"secret"⟩, signer := some Sample.signer }
    let c' : Client := { signer := some Sample.otherSigner }
    let s := Sample.script [Sample.demand "second", Sample.grant]
    let s' : Script := { s with
      resolutions := s.resolutions.map fun _ => .claim (.presentation ⟨"other"⟩), drawn := 7 }
    let entry : Entry := .token Sample.metadata
    let p := entry.play Script.environment c { ticket := "first" } s
    let q := entry.play Script.environment c' { ticket := "third", pct := some ⟨"kept"⟩ } s'
    (sendings p.trace).length = 2 ∧ (sendings q.trace).length = 2 ∧
      BindsTo Sample.signer Sample.endpoint p ∧ BindsTo Sample.otherSigner Sample.endpoint q ∧
      (sendings p.trace).map (·.1.body) ≠ (sendings q.trace).map (·.1.body) ∧
      p.result.toOption.map (·.accessToken.expose) = some "rpt" ∧ p.result = q.result ∧
      observations p.trace = observations q.trace := by
  intro c c' s s' entry p q
  have hclients : c.Resembles c' := ⟨rfl, rfl, .some rfl⟩
  have hscripts : s.Resembles s' := ⟨rfl, .cons .claim (.cons .claim .nil), rfl⟩
  have hserver := Sample.es256_mem_proofAlgorithms
  have hconfig : Config.fault? {} = none := by decide
  have hbinds : BindsTo Sample.signer Sample.endpoint p :=
    Client.bindsTo_of_find?_eq_none _ _ s hconfig rfl hserver (List.mem_singleton.mpr rfl) rfl
  have hbinds' : BindsTo Sample.otherSigner Sample.endpoint q :=
    Client.bindsTo_of_find?_eq_none _ _ s' hconfig rfl hserver (List.mem_singleton.mpr rfl) rfl
  obtain ⟨⟨text, second, hsendings⟩, htoken⟩ :=
    Sample.token_of_signs (c := c) { ticket := "first" } (s := s) rfl rfl rfl rfl rfl rfl
      Sample.signs_first Sample.signs_second
  obtain ⟨⟨text', second', hsendings'⟩, htoken'⟩ :=
    Sample.token_of_signs (c := c') { ticket := "third", pct := some ⟨"kept"⟩ } (s := s') rfl rfl
      rfl rfl rfl rfl Sample.otherSigner_signs_first Sample.otherSigner_signs_second
  have hbodies : (sendings p.trace).map (·.1.body) ≠ (sendings q.trace).map (·.1.body) := by
    rw [hsendings, hsendings']
    simp only [List.map_cons, Client.body_httpRequest]
    exact fun hsame => absurd (List.cons.inj hsame).1 (by decide +kernel)
  refine ⟨congrArg List.length hsendings, congrArg List.length hsendings', hbinds, hbinds', hbodies,
    htoken, ?_⟩
  rcases indistinct_of_plays _ _ Script.inStep_environment c c' hclients { ticket := "first" }
    { ticket := "third", pct := some ⟨"kept"⟩ } entry s s' hscripts with
    hsame | ⟨-, hfalters⟩ | ⟨-, hfalters⟩
  · exact hsame
  · rw [hfalters.result] at htoken
    cases htoken
  · rw [hfalters.result] at htoken'
    cases htoken'

end TicketGrant
