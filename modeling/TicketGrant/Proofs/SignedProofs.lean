import TicketGrant.Proofs.Crypto.Ecdsa
import TicketGrant.Proofs.LegalFields
import TicketGrant.Proofs.ProofText
import TicketGrant.Proofs.Secrecy
import TicketGrant.Proofs.Url.Marks

/-!
# What proofs say

Whatever a signer with a key is asked to prove, the text that it makes has three segments of Base64.
The first is a JSON object with the public key, the second one with the claims as they were asked
for, and the third is the signature of what stands before it, which fits the public key. Texts that
are put into claims may hold any characters: JSON escapes them, and Base64 keeps the segments apart
(`proofs_of_signers`). Only if no signature comes of the key is there no text.
-/
namespace TicketGrant

open Json

/-! ### Segments -/

namespace Binding

/-- A segment is the URL-safe Base64 of some bytes, without padding. -/
structure Carries (segment : String) (bytes : Bytes) : Prop where
  digits : ∀ c ∈ segment.toList, c.isAlphanum = true ∨ c = '-' ∨ c = '_'
  decode : Base64.urlSafe.decode? segment = some bytes

theorem carries_encode (bytes : Bytes) : Carries (Base64.urlSafe.encode bytes) bytes := by
  refine ⟨?_, Base64.legible_urlSafe.decode?_encode bytes⟩
  intro c hc
  rw [Base64.Alphabet.encode, String.toList_ofList] at hc
  have hdigit : ∀ n < 64, (Base64.urlSafe.digit n).isAlphanum = true ∨
      Base64.urlSafe.digit n = '-' ∨ Base64.urlSafe.digit n = '_' := by
    decide
  exact Base64.Alphabet.of_mem_digits (P := fun c => c.isAlphanum = true ∨ c = '-' ∨ c = '_')
    hdigit (fun hpadded => by cases hpadded) hc

/-- A segment is the Base64 of a JSON object with exactly these members, in this order. -/
def CarriesObject (segment : String) (members : List (String × Node)) : Prop :=
  ∃ bytes, Carries segment bytes ∧
    read bytes = ⟨.object (members.map fun m => (some m.1, m.2)) .closed, true⟩

theorem carriesObject_segment (members : List (String × Value)) :
    CarriesObject (segment (.record members)) (members.map fun m => (m.1, m.2.node)) := by
  refine ⟨_, carries_encode _, ?_⟩
  rw [read_render, Value.record, Value.node, Value.memberNodes_record, List.map_map]
  rfl

/-- A public key as it is read. -/
def PublicJwk.node (k : PublicJwk) : Node :=
  .object [(some "crv", .text (some k.crv)), (some "kty", .text (some k.kty)),
    (some "x", .text (some k.x)), (some "y", .text (some k.y))] .closed

/-- The members of a header. -/
def headerMembers (jwk : PublicJwk) : List (String × Node) :=
  [("typ", .text (some "dpop+jwt")), ("alg", .text (some "ES256")), ("jwk", jwk.node)]

/-- The member for a text that may not be given. -/
def givenMember (name : String) (given : Option String) : List (String × Node) :=
  given.toList.map fun content => (name, .text (some content))

/-- The members of claims. -/
def claimMembers (jti : String) (r : ProofRequest) (now : Instant) : List (String × Node) :=
  [("jti", .text (some jti)), ("htm", .text (some r.method)),
    ("htu", .text (some r.uri.withoutQuery.render)), ("iat", .number (some now.unixSeconds))] ++
    givenMember "ath" r.accessTokenHash ++ givenMember "nonce" r.nonce

theorem carriesObject_header (jwk : PublicJwk) :
    CarriesObject (segment (ProofHeader.ofKey jwk).toJson) (headerMembers jwk) :=
  carriesObject_segment _

theorem map_node_member (name : String) (given : Option String) :
    (ProofClaims.member name given).map (fun m => (m.1, m.2.node)) = givenMember name given := by
  rw [ProofClaims.member, List.map_map]
  rfl

theorem carriesObject_claims (r : ProofRequest) (draw : Bytes) (now : Instant) :
    CarriesObject (segment (r.claims draw now.unixSeconds).toJson)
      (claimMembers (Base64.urlSafe.encode draw) r now) := by
  have hmembers := carriesObject_segment
    ([("jti", .text (Base64.urlSafe.encode draw)), ("htm", .text r.method),
      ("htu", .text r.uri.withoutQuery.render), ("iat", .integer now.unixSeconds)] ++
      ProofClaims.member "ath" r.accessTokenHash ++ ProofClaims.member "nonce" r.nonce)
  simp only [List.map_append, map_node_member] at hmembers
  exact hmembers

/-! ### Keys -/

/-- The point of a public key is found again. -/
theorem PublicJwk.point?_ofPoint {x y : Nat} (hx : x < 2 ^ 256) (hy : y < 2 ^ 256) :
    (ofPoint x y).point? = some (x, y) := by
  have hcoordinate {n : Nat} (h : n < 2 ^ 256) :
      coordinate? (Base64.urlSafe.encode (P256.toBytes n)) = some n := by
    simp [coordinate?, Base64.legible_urlSafe.decode?_encode, P256.ofBytes_toBytes h]
  simp [point?, ofPoint, hcoordinate hx, hcoordinate hy]

theorem Signer.exists_publicPoint {s : Signer} {jwk : PublicJwk} {key : P256.PrivateKey}
    (hkey : s.key = some key) (hjwk : s.publicJwk? = some jwk) :
    ∃ x y, key.publicPoint? = some (x, y) ∧ jwk.point? = some (x, y) := by
  simp only [publicJwk?, hkey, Option.bind_eq_bind, Option.bind_some, Option.bind_eq_some_iff,
    Option.some.injEq, Prod.exists] at hjwk
  obtain ⟨x, y, hpoint, rfl⟩ := hjwk
  obtain ⟨hx, hy⟩ := P256.lt_prime_of_isOnCurve (P256.PrivateKey.represents_publicPoint hpoint).1
  exact ⟨x, y, hpoint,
    PublicJwk.point?_ofPoint (hx.trans P256.prime_lt) (hy.trans P256.prime_lt)⟩

/-! ### Texts -/

/-- A text is a proof over two segments: with them stands the signature of both by a key, which
fits the public key in the text itself. -/
structure IsProof (key : P256.PrivateKey) (header claims text : String) : Prop where
  exists_signature : ∃ third signature,
    Ecdsa.sign? key (Utf8.encode (header ++ "." ++ claims)) = some signature ∧
      Proof.segments text = [header, claims, third] ∧ Carries third signature.toBytes ∧
      signature.toBytes.length = 64
  isVerified : Proof.isVerified text = true
  isLegal : (Http.Header.ofText "dpop" text).isLegal = true

theorem isProof_of_prove {s : Signer} {key : P256.PrivateKey} {jwk : PublicJwk} {r : ProofRequest}
    {draw : Bytes} {now : Instant} {text : String} (hkey : s.key = some key)
    (hjwk : s.publicJwk? = some jwk) (h : s.prove r draw now.unixSeconds = .ok text) :
    IsProof key (segment (ProofHeader.ofKey jwk).toJson)
      (segment (r.claims draw now.unixSeconds).toJson) text := by
  have hlegal := Http.Header.isLegal_ofText "dpop" (isVisible_of_prove h)
  obtain ⟨x, y, hpublic, hpoint⟩ := s.exists_publicPoint hkey hjwk
  obtain ⟨-, key', jwk', hkey', hjwk', hsigned⟩ := Signer.of_prove h
  obtain rfl : key = key' := Option.some.inj (hkey.symm.trans hkey')
  obtain rfl : jwk = jwk' := Option.some.inj (hjwk.symm.trans hjwk')
  obtain ⟨signature, hsign, hread⟩ :=
    Proof.ofText?_of_signed hsigned (r.isTimely_claims draw now)
  obtain ⟨signature', hsign', htext⟩ := exists_of_signed hsigned
  obtain rfl : signature = signature' := Option.some.inj (hsign.symm.trans hsign')
  have hsegments := Proof.segments_signed jwk (r.claims draw now.unixSeconds) signature.toBytes
  rw [← htext] at hsegments
  refine ⟨⟨_, signature, hsign, hsegments, carries_encode _, Ecdsa.length_toBytes _⟩, ?_, hlegal⟩
  obtain ⟨⟨-, hr⟩, -, hs⟩ := Ecdsa.range_of_sign hsign
  rw [Proof.isVerified, hsegments, hread]
  simp only [ProofHeader.ofKey, Ecdsa.ofBytes?_toBytes hr hs, hpoint]
  exact Ecdsa.verify_of_sign hsign hpublic

/-! ### What a signer proves -/

/-- The first two segments of a proof say whose it is and what it is about: the public key of the
signer, and the claims that are asked for, none else, with a drawn identifier. -/
structure Announces (s : Signer) (r : ProofRequest) (draw : Bytes) (now : Instant)
    (header claims : String) : Prop where
  publicKey : ∃ jwk, s.publicJwk? = some jwk ∧ CarriesObject header (headerMembers jwk)
  claims : ∃ jti, Carries jti draw ∧ CarriesObject claims (claimMembers jti r now)
  target : r.uri.Starts r.uri.withoutQuery.render
  /-- The mark of a query or a fragment is nowhere in it, if the URL was read from a text. -/
  unmarked : ∀ text, Url.parse text = .ok r.uri → Url.Unmarked r.uri.withoutQuery.render.toList

theorem announces_of_publicJwk {s : Signer} {jwk : PublicJwk} (hjwk : s.publicJwk? = some jwk)
    (r : ProofRequest) (draw : Bytes) (now : Instant) :
    Announces s r draw now (segment (ProofHeader.ofKey jwk).toJson)
      (segment (r.claims draw now.unixSeconds).toJson) where
  publicKey := ⟨jwk, hjwk, carriesObject_header jwk⟩
  claims := ⟨_, carries_encode draw, carriesObject_claims r draw now⟩
  target := r.uri.starts_withoutQuery
  unmarked := fun _ => Url.unmarked_withoutQuery

/-- A signer with a key proves every request in one form. There is a text as soon as the key makes a
signature of the first two segments, and the text is a proof over them. What stands behind the path
of the URL makes no difference. -/
theorem proofs_of_signers {s : Signer} {key : P256.PrivateKey} (hkey : s.key = some key)
    {r : ProofRequest} (halgorithm : r.algorithm = es256) (draw : Vector UInt8 16)
    (now : Instant) :
    ∃ header claims, Announces s r draw.toList now header claims ∧
      ((∃ text, s.prove r draw.toList now.unixSeconds = .ok text) ↔
        (Ecdsa.sign? key (Utf8.encode (header ++ "." ++ claims))).isSome = true) ∧
      (∀ fault, s.prove r draw.toList now.unixSeconds = .error fault → fault = .noSignature) ∧
      (∀ text, s.prove r draw.toList now.unixSeconds = .ok text →
        IsProof key header claims text) ∧
      ∀ query fragment, s.prove { r with uri := { r.uri with query, fragment } } draw.toList
        now.unixSeconds = s.prove r draw.toList now.unixSeconds := by
  have hsome : s.publicJwk?.isSome = true := by
    rw [s.isSome_publicJwk?, hkey]
    rfl
  obtain ⟨jwk, hjwk⟩ := Option.isSome_iff_exists.mp hsome
  have hprove : s.prove r draw.toList now.unixSeconds =
      signed key jwk (r.claims draw.toList now.unixSeconds) := by
    rw [Signer.prove_eq halgorithm, hkey, hjwk]
  refine ⟨_, _, announces_of_publicJwk hjwk r draw.toList now, ?_, ?_, ?_, ?_⟩
  · rw [hprove]
    exact exists_signed_iff
  · intro fault hfault
    rw [hprove] at hfault
    exact fault_of_signed hfault
  · intro text htext
    exact isProof_of_prove hkey hjwk htext
  · intro query fragment
    rfl

end Binding

/-! ### A proof of texts that have to be escaped -/

/-- A request with texts that have to be escaped. -/
def Sample.proofRequest : Binding.ProofRequest where
  method := "PO\x22S\\T\n"
  uri := { Sample.endpoint with query := some "a=1", fragment := some "top" }
  algorithm := es256
  nonce := some "\x00\u00e9\u2603"

namespace Binding

/-- The signer makes a proof, with the key in it and with the texts as they are, but not with the
query and fragment of the URL. -/
theorem proofs_of_sample_signer :
    let draw : Vector UInt8 16 := Vector.replicate 16 7
    ∃ text header claims, Sample.signer.prove Sample.proofRequest draw.toList 0 = .ok text ∧
      Announces Sample.signer Sample.proofRequest draw.toList .epoch header claims ∧
      IsProof ⟨1, by decide, by decide⟩ header claims text := by
  intro draw
  obtain ⟨text, htext⟩ : ∃ text,
      Sample.signer.prove Sample.proofRequest draw.toList 0 = .ok text := by
    refine (Signer.exists_prove_iff rfl Sample.publicJwk?_signer rfl).mpr ?_
    rw [encode_signingInput]
    decide +kernel
  obtain ⟨header, claims, hannounces, -, -, hproof, -⟩ :=
    proofs_of_signers (s := Sample.signer) rfl (r := Sample.proofRequest) rfl draw .epoch
  exact ⟨text, header, claims, htext, hannounces, hproof text htext⟩

end Binding
end TicketGrant
