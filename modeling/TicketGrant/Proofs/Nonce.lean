import TicketGrant.Proofs.Fields
import TicketGrant.Proofs.Followed
import TicketGrant.Proofs.Presented
import TicketGrant.Proofs.ProofText

/-!
# Nonces

When a request is sent again. A server that wants its nonce in the proof says so with a code and a
field of its own, and only then the same request goes out once more, with a proof that carries the
nonce. `resends_of_round` says so of every round of every run: nothing else is sent twice, nothing
is sent three times, and the second delivery settles the round with the budget that the first would
have had.

A proof has to be signed, and a key makes no signature of a message whose secret factor will not do
or is not found. If that befalls the second proof there is no second request, and the run ends.
-/
namespace TicketGrant

open Http Dialogue Trace

/-- When a request is sent again, with the nonce that its proof carries then. -/
structure Client.ResendDue (c : Client) (choice : Option Binding.Choice) (response : Response)
    (nonce : String) : Prop where
  bound : choice.isSome = true
  isClientError : 400 ≤ response.status.code ∧ response.status.code < 500
  code : c.codeIn response = "use_dpop_nonce"
  /-- The first field for nonces is visible ASCII, spaces and tabs. -/
  field : ∃ before found after, response.headers = before ++ found :: after ∧
    (∀ other ∈ before, lowerName other.name ≠ "dpop-nonce") ∧
    lowerName found.name = "dpop-nonce" ∧
    (∀ byte ∈ found.value, byte = 0x09 ∨ 0x20 ≤ byte ∧ byte < 0x7F) ∧
    found.value = Utf8.encode nonce

/-- A request has the one proof that it needs: none if it is unbound, and otherwise one that the key
of its signer made. In this are read the public key, the request's method, the endpoint, and this
nonce or none. -/
inductive Carries (endpoint : Url) (nonce : Option String) : Option Binding.Choice → Request → Prop
  | unbound {sent} : sent.headers.filter isProof = [] → Carries endpoint nonce none sent
  | bound {choice : Binding.Choice} {sent key text} {proof : Binding.Proof} :
      sent.headers.filter isProof = [.ofText "dpop" text] →
      Binding.Proof.ofText? text = some proof → choice.signer.key = some key →
      choice.signer.publicJwk? = some proof.header.jwk →
      Binding.signed key proof.header.jwk proof.claims = .ok text →
      proof.claims.htm = sent.method.name →
      proof.claims.htu = endpoint.withoutQuery.render → proof.claims.nonce = nonce →
      Carries endpoint nonce (some choice) sent

/-- Two requests that differ in their proofs at most. -/
structure SameButProof (first second : Request) : Prop where
  method : second.method = first.method
  target : second.target = first.target
  headers : second.headers.filter (!isProof ·) = first.headers.filter (!isProof ·)
  body : second.body = first.body

/-- What is sent in the nth round, and what settles it. -/
structure Resends (c : Client) (endpoint : Url) (choice : Option Binding.Choice) (budget : Nat)
    (rounds : List (List Turn)) (result : Except Failure Token) (n : Nat) (round : List Turn) :
    Prop where
  /-- So `budget - n` is what is left of the budget. -/
  le_budget : n ≤ budget
  length_le : (sendings round).length ≤ 2
  /-- The first request carries no nonce. -/
  first : ∀ first, (sendings round)[0]? = some first → Carries endpoint none choice first.1
  /-- The request is sent again exactly when that is due, unless it cannot be signed. -/
  again_iff : (∃ second, (sendings round)[1]? = some second) ↔
    (∃ first response nonce, (sendings round)[0]? = some first ∧
      first.2.outcome = .ok response ∧ c.ResendDue choice response nonce) ∧
    ¬ (rounds.length = n + 1 ∧ result = .error (.signing .noSignature))
  /-- It is the same request with the nonce in its proof, and its delivery settles the round. -/
  second : ∀ first second, (sendings round)[0]? = some first → (sendings round)[1]? = some second →
    SameButProof first.1 second.1 ∧
    (∃ response nonce, first.2.outcome = .ok response ∧ c.ResendDue choice response nonce ∧
      Carries endpoint (some nonce) choice second.1) ∧
    ∃ before after ending, round = heard (before ++ .sent second.1 second.2 :: after) ∧
      Settles c budget (budget - n) second.2 after ending ∧ Follows rounds result n ending

variable {c : Client} {endpoint : Url} {choice : Option Binding.Choice} {budget remaining : Nat}
  {request : TokenRequest} {nonce : Option String} {turns : List Turn}

/-! ### When a resend is due -/

theorem Http.Status.isClientError_iff {status : Status} :
    status.isClientError = true ↔ 400 ≤ status.code ∧ status.code < 500 := by
  rw [isClientError, Bool.and_eq_true, decide_eq_true_iff, decide_eq_true_iff]

/-- A nonce stands in the first field for it. -/
theorem Http.exists_nonceField_iff {headers : List Header} {nonce : String} :
    (∃ value, fieldValue? headers "dpop-nonce" = some value ∧ readable? value = some nonce) ↔
      ∃ before found after, headers = before ++ found :: after ∧
        (∀ other ∈ before, lowerName other.name ≠ "dpop-nonce") ∧
        lowerName found.name = "dpop-nonce" ∧
        (∀ byte ∈ found.value, byte = 0x09 ∨ 0x20 ≤ byte ∧ byte < 0x7F) ∧
        found.value = Utf8.encode nonce := by
  have hlower : lowerName "dpop-nonce" = "dpop-nonce" := by decide +kernel
  simp only [fieldValue?_eq_some_iff, readable?_eq_some_iff, hlower]
  constructor
  · rintro ⟨_, ⟨before, found, after, hheaders, hbefore, hname, rfl⟩, hreadable⟩
    exact ⟨before, found, after, hheaders, hbefore, hname, hreadable⟩
  · rintro ⟨before, found, after, hheaders, hbefore, hname, hreadable⟩
    exact ⟨_, ⟨before, found, after, hheaders, hbefore, hname, rfl⟩, hreadable⟩

theorem Client.resendDue_iff {response : Response} {text : String} :
    c.ResendDue choice response text ↔
      choice.isSome = true ∧ c.demandedNonce? response = some text := by
  rw [demandedNonce?_eq_some_iff, exists_nonceField_iff, Status.isClientError_iff]
  exact ⟨fun ⟨hbound, hclient, hcode, hfield⟩ => ⟨hbound, hclient, hcode, hfield⟩,
    fun ⟨hbound, hclient, hcode, hfield⟩ => ⟨hbound, hclient, hcode, hfield⟩⟩

theorem Client.demandsNonce_iff {delivery : Delivery} {text : String} :
    (∃ used, c.DemandsNonce choice delivery used text) ↔
      ∃ response, delivery.outcome = .ok response ∧ c.ResendDue choice response text := by
  simp only [resendDue_iff, Option.isSome_iff_exists]
  constructor
  · rintro ⟨used, hchoice, response, hresponse, hnonce⟩
    exact ⟨response, hresponse, ⟨used, hchoice⟩, hnonce⟩
  · rintro ⟨response, hresponse, ⟨used, hchoice⟩, hnonce⟩
    exact ⟨used, hchoice, response, hresponse, hnonce⟩

/-- An answer without fields demands no nonce. -/
theorem Client.not_demandsNonce_of_headers {delivery : Delivery} {response : Response}
    (houtcome : delivery.outcome = .ok response) (hheaders : response.headers = [])
    (used : Binding.Choice) (text : String) : ¬ c.DemandsNonce choice delivery used text := by
  rintro ⟨-, answer, hanswer, hnonce⟩
  rw [houtcome] at hanswer
  cases hanswer
  obtain ⟨-, -, value, hfield, -⟩ := demandedNonce?_eq_some_iff.mp hnonce
  rw [hheaders] at hfield
  cases hfield

/-! ### The two requests -/

/-- A proof is found again in its text. -/
theorem Proves.exists_read {used : Binding.Choice} {written : Option String}
    (h : Proves endpoint (some used) nonce turns written) :
    ∃ text key proof, written = some text ∧ Binding.Proof.ofText? text = some proof ∧
      used.signer.key = some key ∧ used.signer.publicJwk? = some proof.header.jwk ∧
      Binding.signed key proof.header.jwk proof.claims = .ok text ∧ proof.header.alg = "ES256" ∧
      proof.claims.htm = "POST" ∧ proof.claims.htu = endpoint.withoutQuery.render ∧
      proof.claims.nonce = nonce := by
  cases h with
  | @bound _ _ bytes now text hprove =>
    obtain ⟨-, key, jwk, hkey, hjwk, hsigned⟩ := Binding.Signer.of_prove hprove
    obtain ⟨signature, -, hread⟩ := Binding.Proof.ofText?_of_signed hsigned
      ((used.asked endpoint nonce).isTimely_claims bytes now)
    exact ⟨text, key, _, rfl, hread, hkey, hjwk, hsigned, rfl, rfl, rfl, rfl⟩

theorem Sends.carries {sending : Request × Delivery}
    (h : Sends c endpoint choice request nonce turns (.ok sending)) :
    Carries endpoint nonce choice sending.1 := by
  cases h with
  | sent hproof _ =>
    cases choice with
    | none =>
      cases hproof
      exact .unbound (c.filter_isProof _ _ none)
    | some used =>
      obtain ⟨text, key, proof, rfl, hread, hkey, hjwk, hsigned, -, hmethod, hplace, hnonce⟩ :=
        hproof.exists_read
      exact .bound (c.filter_isProof _ _ (some text)) hread hkey hjwk hsigned hmethod hplace hnonce

theorem Sends.sameButProof {nonce' : Option String} {turns' : List Turn}
    {first second : Request × Delivery}
    (h : Sends c endpoint choice request nonce turns (.ok first))
    (h' : Sends c endpoint choice request nonce' turns' (.ok second)) :
    SameButProof first.1 second.1 := by
  cases h with
  | sent _ ht =>
    cases h' with
    | sent _ ht' =>
      rw [ht] at ht'
      cases ht'
      exact ⟨rfl, rfl, by rw [c.filter_not_isProof, c.filter_not_isProof], rfl⟩

/-- What could be sent once can be sent again, if it can be signed. -/
theorem Sends.fault_of_again {nonce' : Option String} {turns' : List Turn}
    {first : Request × Delivery} {failure : Failure}
    (h : Sends c endpoint choice request nonce turns (.ok first))
    (h' : Sends c endpoint choice request nonce' turns' (.error failure)) :
    failure = .signing .noSignature := by
  cases h with
  | sent hproof ht =>
    cases h' with
    | unsigned hchoice hfault =>
      cases hproof with
      | unbound => cases hchoice
      | bound hprove =>
        cases hchoice
        rw [Binding.Signer.fault_of_prove hprove hfault rfl]
    | unbuilt _ ht' =>
      rw [ht] at ht'
      cases ht'

/-! ### The requests of a round -/

/-- What can be sent in a round before it ends. -/
inductive Attempts (c : Client) (endpoint : Url) (choice : Option Binding.Choice)
    (budget remaining : Nat) (turns : List Turn) : Ending → Prop
  /-- The request could not be sent. -/
  | nothing {ending} :
      sendings turns = [] → Attempts c endpoint choice budget remaining turns ending
  /-- It was sent, and that is all. -/
  | once {first ending} :
      sendings turns = [first] → Carries endpoint none choice first.1 →
      (∀ response nonce, first.2.outcome = .ok response → ¬ c.ResendDue choice response nonce) →
      Attempts c endpoint choice budget remaining turns ending
  /-- It was due again, and could not be signed. -/
  | unsigned {first response nonce} :
      sendings turns = [first] → Carries endpoint none choice first.1 →
      first.2.outcome = .ok response → c.ResendDue choice response nonce →
      Attempts c endpoint choice budget remaining turns (.ended (.error (.signing .noSignature)))
  /-- It was due again, and was sent. -/
  | twice {first second response nonce before after ending} :
      sendings turns = [first, second] → Carries endpoint none choice first.1 →
      first.2.outcome = .ok response → c.ResendDue choice response nonce →
      SameButProof first.1 second.1 → Carries endpoint (some nonce) choice second.1 →
      turns = before ++ .sent second.1 second.2 :: after →
      Settles c budget remaining second.2 after ending →
      Attempts c endpoint choice budget remaining turns ending

theorem Sends.exists_eq_concat {sending : Request × Delivery}
    (h : Sends c endpoint choice request nonce turns (.ok sending)) :
    ∃ front, turns = front ++ [.sent sending.1 sending.2] := by
  cases h with
  | sent => exact ⟨_, rfl⟩

theorem Round.attempts {ending : Ending}
    (h : Round c endpoint choice budget remaining request turns ending) :
    Attempts c endpoint choice budget remaining turns ending := by
  cases h with
  | @unsent _ failure hx =>
    generalize houtcome : Except.error failure = outcome at hx
    cases hx with
    | unsent hfirst => exact .nothing hfirst.sendings_eq
    | once => cases houtcome
    | @again _ sending _ _ _ outcome hfirst hdemands hsecond =>
      cases outcome with
      | ok => cases houtcome
      | error failure =>
        cases houtcome
        obtain rfl := hfirst.fault_of_again hsecond
        obtain ⟨response, hresponse, hdue⟩ := Client.demandsNonce_iff.mp ⟨_, hdemands⟩
        refine .unsigned ?_ hfirst.carries hresponse hdue
        rw [sendings_append, hfirst.sendings_eq, hsecond.sendings_again]
        rfl
  | @settled before delivery after _ hx hsettles =>
    generalize houtcome : Except.ok delivery = outcome at hx
    cases hx with
    | unsent => cases houtcome
    | once hfirst hnone =>
      cases houtcome
      refine .once ?_ hfirst.carries fun response nonce hresponse hdue => ?_
      · rw [sendings_append, hfirst.sendings_eq, hsettles.sendings_eq_nil]
        rfl
      · obtain ⟨used, hdemands⟩ := Client.demandsNonce_iff.mpr ⟨response, hresponse, hdue⟩
        exact hnone used nonce hdemands
    | @again first sending used nonce resent outcome hfirst hdemands hsecond =>
      cases outcome with
      | error => cases houtcome
      | ok second =>
        cases houtcome
        obtain ⟨response, hresponse, hdue⟩ := Client.demandsNonce_iff.mp ⟨used, hdemands⟩
        have hsendings : sendings (first ++ .observed (.resend used.algorithm) ::
            .observed (.nonceRetry used.algorithm) :: resent ++ after) = [sending, second] := by
          rw [sendings_append, sendings_append, hfirst.sendings_eq, hsecond.sendings_again,
            hsettles.sendings_eq_nil]
          rfl
        obtain ⟨front, rfl⟩ := hsecond.exists_eq_concat
        have hturns : first ++ .observed (.resend used.algorithm) ::
              .observed (.nonceRetry used.algorithm) :: (front ++ [.sent second.1 second.2]) ++
              after =
            (first ++ .observed (.resend used.algorithm) ::
              .observed (.nonceRetry used.algorithm) :: front) ++
              .sent second.1 second.2 :: after := by
          simp
        exact .twice hsendings hfirst.carries hresponse hdue (hfirst.sameButProof hsecond)
          hsecond.carries hturns hsettles

/-! ### Rounds of a run -/

/-- What settles a round is no failure to sign. -/
theorem Settles.ne_signing {delivery : Delivery} {after : List Turn} {fault : Binding.SigningFault}
    {result : Except Failure Token}
    (h : Settles c budget remaining delivery after (.ended result)) :
    result ≠ .error (.signing fault) := by
  rintro rfl
  cases h

theorem Attempts.resends {ending : Ending} {n : Nat} {rounds : List (List Turn)}
    {result : Except Failure Token}
    (h : Attempts c endpoint choice budget (budget - n) turns ending) (hle : n ≤ budget)
    (hfollows : Follows rounds result n ending) :
    Resends c endpoint choice budget rounds result n (heard turns) := by
  cases h with
  | nothing hnone =>
    rw [← sendings_heard] at hnone
    refine ⟨hle, by simp [hnone], by simp [hnone], ?_, by simp [hnone]⟩
    rw [hnone]
    constructor
    · rintro ⟨_, ⟨⟩⟩
    · rintro ⟨⟨_, _, _, ⟨⟩, _⟩, _⟩
  | once hone hcarries hnot =>
    rw [← sendings_heard] at hone
    refine ⟨hle, by simp [hone], ?_, ?_, ?_⟩ <;> rw [hone]
    · rintro _ ⟨⟩
      exact hcarries
    · constructor
      · rintro ⟨_, ⟨⟩⟩
      · rintro ⟨⟨_, response, nonce, ⟨⟩, hresponse, hdue⟩, -⟩
        exact absurd hdue (hnot response nonce hresponse)
    · rintro _ _ _ ⟨⟩
  | unsigned hone hcarries hresponse hdue =>
    rw [← sendings_heard] at hone
    refine ⟨hle, by simp [hone], ?_, ?_, ?_⟩ <;> rw [hone]
    · rintro _ ⟨⟩
      exact hcarries
    · constructor
      · rintro ⟨_, ⟨⟩⟩
      · rintro ⟨-, hsigned⟩
        cases hfollows with
        | last hlength => exact absurd ⟨hlength, rfl⟩ hsigned
    · rintro _ _ _ ⟨⟩
  | twice htwo hcarries hresponse hdue hsame hagain hturns hsettles =>
    rw [← sendings_heard] at htwo
    refine ⟨hle, by simp [htwo], ?_, ?_, ?_⟩ <;> rw [htwo]
    · rintro _ ⟨⟩
      exact hcarries
    · constructor
      · intro _
        refine ⟨⟨_, _, _, rfl, hresponse, hdue⟩, ?_⟩
        rintro ⟨hlast, rfl⟩
        cases hfollows with
        | last _ => exact hsettles.ne_signing rfl
        | more _ _ hmore => omega
      · intro _
        exact ⟨_, rfl⟩
    · rintro _ _ ⟨⟩ ⟨⟩
      exact ⟨hsame, ⟨_, _, hresponse, hdue, hagain⟩, _, _, _, by rw [hturns], hsettles, hfollows⟩

/-- In every round of every run the request is sent again exactly when a nonce is due, and then as
the same request with that nonce, by which alone the round is settled. -/
theorem resends_of_round {σ : Type} (env : Environment σ) (c : Client) (request : TokenRequest)
    (s : σ) (entry : Entry) {n : Nat} {round : List Turn}
    (hround : (rounds (entry.play env c request s).trace)[n]? = some round) :
    Resends c entry.endpoint (entry.choice? c) (entry.budget c)
      (rounds (entry.play env c request s).trace) (entry.play env c request s).result n round := by
  rcases entry.round_of_play env c request s hround with
    ⟨rfl, rfl, hlength, -⟩ | ⟨_, inner, ending, -, hinner, rfl, hle, hfollows⟩
  · have hnothing : Attempts c entry.endpoint (entry.choice? c) (entry.budget c)
        (entry.budget c - 0) [] (.ended (entry.play env c request s).result) := .nothing rfl
    exact hnothing.resends (Nat.zero_le _) (.last hlength)
  · exact hinner.attempts.resends hle hfollows

/-! ### A nonce is demanded of a bound request -/

/-- A run of one round. -/
theorem Entry.play_token_of_round {σ : Type} {env : Environment σ} {metadata : Metadata}
    {s s' : σ} {r : Except Failure Token} (hconfig : c.config.fault? = none)
    (hchoice : c.choice? metadata = choice)
    (hround : Round c metadata.tokenEndpoint choice c.config.maxDepth.toNat
      c.config.maxDepth.toNat request turns (.ended r)) (hanswers : env.Answers turns s s') :
    let p := (Entry.token metadata).play env c request s
    rounds p.trace = [heard turns] ∧ sendings p.trace = sendings turns := by
  intro p
  subst hchoice
  have hplay : p = ⟨r, s', framed .negotiation "token" turns r⟩ :=
    Client.play_token_eq hconfig (.last hround) hanswers
  rw [hplay, rounds_framed, sendings_framed]
  exact ⟨rounds_eq_singleton hround.meetings_of_ended, rfl⟩

/-- A client with a signer binds its requests in the algorithm that is selected. -/
theorem Client.choice?_of_select {metadata : Metadata} {signer : Binding.Signer}
    {algorithm : String} (hsigner : c.signer = some signer)
    (hselect : Binding.select? metadata.algorithms? c.config.algorithms = some algorithm) :
    c.choice? metadata = some ⟨signer, algorithm⟩ := by
  rw [choice?, hsigner, hselect]
  rfl

/-- With its proof, a request can be sent. -/
theorem Proves.sends {text : Option String} {target : Target}
    (h : Proves endpoint choice nonce turns text) (htarget : Target.ofUrl endpoint = .ok target)
    (c : Client) (request : TokenRequest) (delivery : Delivery) :
    Sends c endpoint choice request nonce
      (turns ++ [.sent (c.httpRequest target request text) delivery])
      (.ok (c.httpRequest target request text, delivery)) :=
  .sent h htarget

/-- With its proof, a request that is answered without fields is sent once. -/
theorem Proves.exchanges {text : Option String} {target : Target}
    (h : Proves endpoint choice none turns text) (htarget : Target.ofUrl endpoint = .ok target)
    (c : Client) (request : TokenRequest) (delivery : Delivery) {response : Response}
    (houtcome : delivery.outcome = .ok response) (hheaders : response.headers = []) :
    Exchanges c endpoint choice request
      (turns ++ [.sent (c.httpRequest target request text) delivery]) (.ok delivery) :=
  .once (h.sends htarget c request delivery)
    (Client.not_demandsNonce_of_headers houtcome hheaders)

/-- With a signature of what is to be signed, a request gets its proof. -/
theorem Proves.exists_of_sign {used : Binding.Choice} {key : P256.PrivateKey}
    {jwk : Binding.PublicJwk} {bytes : Bytes} {now : Instant} (halgorithm : used.algorithm = es256)
    (hkey : used.signer.key = some key) (hjwk : used.signer.publicJwk? = some jwk)
    (hsign : (Ecdsa.sign? key (Json.bytesOf
      (Base64.urlSafe.digits (Json.bytesOf (Binding.ProofHeader.ofKey jwk).toJson.write) ++ '.' ::
        Base64.urlSafe.digits (Json.bytesOf
          ((used.asked endpoint nonce).claims bytes now.unixSeconds).toJson.write)))).isSome =
        true) :
    ∃ text, Proves endpoint (some used) nonce [.drew bytes, .told now] (some text) := by
  rw [← Binding.encode_signingInput] at hsign
  obtain ⟨text, htext⟩ := (Binding.Signer.exists_prove_iff hkey hjwk halgorithm).mpr hsign
  exact ⟨text, .bound htext⟩

namespace Sample

/-- A demand for a nonce. -/
def nonceDemand (nonce : String) : Delivery :=
  ⟨[], .ok ⟨⟨400⟩, [.ofText "DPoP-Nonce" nonce], Utf8.encode
    "\x7b\"error\":\"use_dpop_nonce\"\x7d"⟩⟩

/-- A signer with a key. -/
def signer : Binding.Signer := ⟨some ⟨1, by decide, by decide⟩⟩

/-- A server that accepts proofs in two algorithms. -/
def metadata : Metadata where
  issuer := Sample.endpoint
  tokenEndpoint := Sample.endpoint
  jwksUri := none
  grantTypes := .empty
  proofAlgorithms := .ofList ["ES256", "RS256"]
  profiles := .empty

theorem es256_mem_proofAlgorithms : es256 ∈ metadata.proofAlgorithms.toList :=
  Text.Ordered.mem_toList_ofList.mpr (by decide)

theorem ofUrl_endpoint : Target.ofUrl Sample.endpoint = .ok target := by rfl

theorem select?_es256 : Binding.select? metadata.algorithms? [es256] = some es256 := by
  decide +kernel

theorem publicJwk?_signer :
    signer.publicJwk? = some (.ofPoint P256.Point.generator.x P256.Point.generator.y) := by
  decide +kernel

/-- A signer makes the proof of a request, from the nth draw of a script. -/
def Signs (signer : Binding.Signer) (nonce : Option String) (n : Nat) : Prop :=
  ∃ text, Proves Sample.endpoint (some ⟨signer, es256⟩) nonce
    [.drew (Script.drawBytes n), .told .epoch] (some text)

theorem signs_first : Signs signer none 0 :=
  Proves.exists_of_sign rfl rfl publicJwk?_signer (by decide +kernel)

theorem signs_nonce : Signs signer (some "nonce") 1 :=
  Proves.exists_of_sign rfl rfl publicJwk?_signer (by decide +kernel)

theorem resendDue_of_nonceDemand :
    ∃ response, (nonceDemand "nonce").outcome = .ok response ∧
      Client.ResendDue { signer := some signer } (some ⟨signer, es256⟩) response "nonce" :=
  ⟨_, rfl, rfl, by decide, by decide +kernel, [], _, [], rfl, List.forall_mem_nil _,
    by decide +kernel, by decide +kernel, rfl⟩

/-- With a token for the first request, it is the only one. -/
theorem length_sendings_of_grant {c : Client} (hconfig : c.config.fault? = none)
    (hchoice : c.choice? metadata = some ⟨signer, es256⟩) :
    let p := (Entry.token metadata).play Script.environment c { ticket := "first" } (script [grant])
    (sendings p.trace).length = 1 := by
  intro p
  obtain ⟨text, hproves⟩ := signs_first
  have honce : Exchanges c Sample.endpoint (some ⟨signer, es256⟩) { ticket := "first" } _
      (.ok grant) := hproves.exchanges ofUrl_endpoint c _ grant rfl rfl
  obtain ⟨-, hsendings⟩ : _ ∧ sendings p.trace = _ :=
    Entry.play_token_of_round hconfig hchoice (.settled honce (Client.settles_tokenIn rfl .epoch))
      ⟨_, rfl, _, rfl, _, rfl, _, rfl, rfl⟩
  rw [hsendings]
  rfl

end Sample

/-- A nonce is demanded of a bound request: it is sent again with the nonce. -/
theorem resends_of_bound_round :
    let c : Client := { signer := some Sample.signer }
    let choice : Option Binding.Choice := some ⟨Sample.signer, es256⟩
    let p := (Entry.token Sample.metadata).play Script.environment c { ticket := "first" }
      (Sample.script [Sample.nonceDemand "nonce", Sample.grant])
    ∃ round first second, (rounds p.trace)[0]? = some round ∧ sendings round = [first, second] ∧
      Resends c Sample.endpoint choice 5 (rounds p.trace) p.result 0 round ∧
      Carries Sample.endpoint none choice first.1 ∧
      Carries Sample.endpoint (some "nonce") choice second.1 ∧ SameButProof first.1 second.1 := by
  intro c choice p
  have hchoice : c.choice? Sample.metadata = choice :=
    Client.choice?_of_select rfl Sample.select?_es256
  obtain ⟨used, hdemands⟩ := Client.demandsNonce_iff.mpr Sample.resendDue_of_nonceDemand
  obtain ⟨text, hfirst⟩ := Sample.signs_first
  obtain ⟨text', hsecond⟩ := Sample.signs_nonce
  have hagain : Exchanges c Sample.endpoint choice { ticket := "first" } _ (.ok Sample.grant) :=
    .again (hfirst.sends Sample.ofUrl_endpoint c _ (Sample.nonceDemand "nonce")) hdemands
      (hsecond.sends Sample.ofUrl_endpoint c _ Sample.grant)
  obtain ⟨r, hsettles⟩ : ∃ r, Settles c 5 5 Sample.grant [.told .epoch] (.ended r) :=
    ⟨_, Client.settles_tokenIn rfl .epoch⟩
  have hround : Round c Sample.endpoint choice 5 5 { ticket := "first" } _ (.ended r) :=
    .settled hagain hsettles
  -- the turns of the round are what the script answers, one by one
  obtain ⟨hrounds, -⟩ : rounds p.trace = [heard _] ∧ _ :=
    Entry.play_token_of_round (by decide) hchoice hround
      ⟨_, rfl, _, rfl, _, rfl, _, rfl, _, rfl, _, rfl, _, rfl, _, rfl, _, rfl, rfl⟩
  have hzero := congrArg (·[0]?) hrounds
  have hresends : Resends c Sample.endpoint (c.choice? Sample.metadata) 5 (rounds p.trace) p.result
      0 _ := resends_of_round _ _ _ _ (.token Sample.metadata) hzero
  rw [hchoice] at hresends
  obtain ⟨hsame, ⟨response, nonce, hresponse, hdue, hcarries⟩, -⟩ := hresends.second _ _ rfl rfl
  refine ⟨_, _, _, hzero, rfl, hresends, hresends.first _ rfl, ?_, hsame⟩
  cases hresponse
  obtain ⟨_, hresponse, hdue'⟩ := Sample.resendDue_of_nonceDemand
  cases hresponse
  rw [Client.resendDue_iff] at hdue hdue'
  cases hdue.2.symm.trans hdue'.2
  exact hcarries

end TicketGrant
