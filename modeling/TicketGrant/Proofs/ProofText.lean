import TicketGrant.Binding.Proof
import TicketGrant.Proofs.Encoding.Base64
import TicketGrant.Proofs.Json.Records
import TicketGrant.Proofs.Pieces
import TicketGrant.Time

/-!
# Proofs undone

What is read in the text of a proof. Its three segments are Base64 without points, so they are found
again; the first two are documents that say the header and the claims, and the last is the signature
of what stands before it (`ofText?_of_signed`).
-/
namespace TicketGrant

open Json

/-! ### Segments -/

namespace Binding

/-- Base64 has no points. -/
theorem ne_point_of_mem_encode {bytes : Bytes} {c : Char}
    (h : c ∈ (Base64.urlSafe.encode bytes).toList) : (c == '.') = false := by
  have hdigit : ∀ n < 64, Base64.urlSafe.digit n ≠ '.' := by decide
  rw [Base64.Alphabet.encode, String.toList_ofList] at h
  exact beq_false_of_ne
    (Base64.Alphabet.of_mem_digits (P := (· ≠ '.')) hdigit (fun _ => by decide) h)

/-- Three segments with points between them are found again. -/
theorem Proof.segments_join (header claims signature : Bytes) :
    segments (Base64.urlSafe.encode header ++ "." ++ Base64.urlSafe.encode claims ++ "." ++
        Base64.urlSafe.encode signature) =
      [Base64.urlSafe.encode header, Base64.urlSafe.encode claims,
        Base64.urlSafe.encode signature] := by
  have hpoint : ".".toList = ['.'] := rfl
  have htext : (Base64.urlSafe.encode header ++ "." ++ Base64.urlSafe.encode claims ++ "." ++
        Base64.urlSafe.encode signature).toList =
      ['.'].intercalate [(Base64.urlSafe.encode header).toList, (Base64.urlSafe.encode claims).toList,
        (Base64.urlSafe.encode signature).toList] := by
    simp [String.toList_append, hpoint]
  have hpieces : ∀ word ∈ [(Base64.urlSafe.encode header).toList,
      (Base64.urlSafe.encode claims).toList, (Base64.urlSafe.encode signature).toList],
      ∀ c ∈ word, (c == '.') = false := by
    simp only [List.forall_mem_cons]
    exact ⟨fun c => ne_point_of_mem_encode, fun c => ne_point_of_mem_encode,
      fun c => ne_point_of_mem_encode, by simp⟩
  rw [segments, htext, Text.pieces_intercalate rfl hpieces (List.cons_ne_nil _ _)]
  simp

/-! ### Documents -/

theorem PublicJwk.says_toJson (k : PublicJwk) : k.toJson.Says PublicJwk.decode k := by
  have hcrv := Value.says_text k.crv
  have hkty := Value.says_text k.kty
  have hx := Value.says_text k.x
  have hy := Value.says_text k.y
  refine Value.says_record (by simp) (by simp) ?_
  exact (((Record.finds_field rfl hcrv).map _ |>.seq (Record.finds_field rfl hkty)).seq
    (Record.finds_field rfl hx)).seq (Record.finds_field rfl hy)

theorem ProofHeader.says_toJson (h : ProofHeader) : h.toJson.Says ProofHeader.record.decode h := by
  have htyp := Value.says_text h.typ
  have halg := Value.says_text h.alg
  have hjwk := h.jwk.says_toJson
  refine Value.says_record (by simp [hjwk.whole]) (by simp) ?_
  exact ((Record.finds_field rfl htyp).map _ |>.seq (Record.finds_field rfl halg)).seq
    (Record.finds_field rfl hjwk)

/-- The time has to fit into 64 bits. -/
def ProofClaims.IsTimely (c : ProofClaims) : Prop :=
  -9223372036854775808 ≤ c.iat ∧ c.iat ≤ 9223372036854775807

/-- Any time of the clock does. -/
theorem ProofRequest.isTimely_claims (r : ProofRequest) (draw : Bytes) (now : Instant) :
    (r.claims draw now.unixSeconds).IsTimely := by
  have hlow := now.first_le
  have hhigh := now.le_last
  simp only [ProofClaims.IsTimely, claims, Instant.unixSeconds]
  simp only [Instant.first, Instant.last] at hlow hhigh
  omega

theorem ProofClaims.says_toJson {c : ProofClaims} (h : c.IsTimely) :
    c.toJson.Says ProofClaims.record.decode c := by
  have hjti := Value.says_text c.jti
  have hhtm := Value.says_text c.htm
  have hhtu := Value.says_text c.htu
  have hiat := Value.says_integer h
  have hnames : (([("jti", Value.text c.jti), ("htm", .text c.htm), ("htu", .text c.htu),
      ("iat", .integer c.iat)] ++ member "ath" c.ath ++ member "nonce" c.nonce).map (·.1)).Sublist
        ["jti", "htm", "htu", "iat", "ath", "nonce"] := by
    simp only [List.map_append]
    exact ((List.Sublist.refl _).append (names_optional_sublist _ _ _)).append
      (names_optional_sublist _ _ _)
  refine Value.says_record ?whole (hnames.nodup (by decide)) ?finds
  case whole =>
    intro m hm
    simp only [member, List.mem_append, List.mem_cons, List.not_mem_nil, or_false,
      List.mem_map] at hm
    rcases hm with ((rfl | rfl | rfl | rfl) | ⟨t, _, rfl⟩) | ⟨t, _, rfl⟩
    all_goals rfl
  case finds =>
    refine (((((Record.finds_field ?_ hjti).map _ |>.seq (Record.finds_field ?_ hhtm)).seq
      (Record.finds_field ?_ hhtu)).seq (Record.finds_field ?_ hiat)).seq
        (Record.finds_nullable_text ?_)).seq (Record.finds_nullable_text ?_)
    all_goals simp [member, lookup_cons_eq_ite, lookup_optional, List.lookup_append]

theorem Proof.document?_segment {α : Type} {v : Value} {decoder : Decoder α} {a : α}
    (h : v.Says decoder a) : document? decoder (segment v) = some a := by
  rw [document?, segment, Base64.legible_urlSafe.decode?_encode]
  change (Json.decode decoder (Utf8.encode v.render)).toOption = some a
  rw [h.decode_render]
  rfl

/-! ### Signed proofs -/

theorem exists_of_signed {key : P256.PrivateKey} {jwk : PublicJwk} {claims : ProofClaims}
    {text : String} (h : signed key jwk claims = .ok text) :
    ∃ signature, Ecdsa.sign? key (Utf8.encode (signingInput (.ofKey jwk) claims)) = some signature ∧
      text = signingInput (.ofKey jwk) claims ++ "." ++ Base64.urlSafe.encode signature.toBytes := by
  rw [signed] at h
  generalize Ecdsa.sign? key _ = signature? at h ⊢
  cases signature? with
  | none => cases h
  | some signature => exact ⟨signature, rfl, (Except.ok.inj h).symm⟩

theorem exists_signed_iff {key : P256.PrivateKey} {jwk : PublicJwk} {claims : ProofClaims} :
    (∃ text, signed key jwk claims = .ok text) ↔
      (Ecdsa.sign? key (Utf8.encode (signingInput (.ofKey jwk) claims))).isSome = true := by
  rw [signed]
  cases Ecdsa.sign? key _ with
  | none => simp [withSignature]
  | some signature => simp [withSignature]

/-- The bytes that are signed, without the texts between. -/
theorem encode_signingInput (header : ProofHeader) (claims : ProofClaims) :
    Utf8.encode (signingInput header claims) =
      bytesOf (Base64.urlSafe.digits (bytesOf header.toJson.write) ++
        '.' :: Base64.urlSafe.digits (bytesOf claims.toJson.write)) := by
  have hpoint : ".".toList = ['.'] := rfl
  have hinput : (signingInput header claims).toList =
      Base64.urlSafe.digits (bytesOf header.toJson.write) ++
        '.' :: Base64.urlSafe.digits (bytesOf claims.toJson.write) := by
    simp [signingInput, segment, Base64.Alphabet.encode, Value.render, encode_ofList,
      String.toList_append, hpoint]
  rw [Utf8.encode, hinput]
  rfl

/-- In its algorithm, a signer with a key proves a request if the key makes a signature. -/
theorem Signer.exists_prove_iff {s : Signer} {key : P256.PrivateKey} {jwk : PublicJwk}
    {r : ProofRequest} {draw : Bytes} {now : Int} (hkey : s.key = some key)
    (hjwk : s.publicJwk? = some jwk) (halgorithm : r.algorithm = es256) :
    (∃ text, s.prove r draw now = .ok text) ↔
      (Ecdsa.sign? key
        (Utf8.encode (signingInput (.ofKey jwk) (r.claims draw now)))).isSome = true := by
  rw [prove_eq halgorithm, hkey, hjwk]
  exact exists_signed_iff

theorem Proof.segments_signed (jwk : PublicJwk) (claims : ProofClaims) (signature : Bytes) :
    segments (signingInput (.ofKey jwk) claims ++ "." ++ Base64.urlSafe.encode signature) =
      [segment (ProofHeader.ofKey jwk).toJson, segment claims.toJson,
        Base64.urlSafe.encode signature] :=
  segments_join _ _ _

/-- In a signed text are read the header with the key, the claims, and the signature over both. -/
theorem Proof.ofText?_of_signed {key : P256.PrivateKey} {jwk : PublicJwk} {claims : ProofClaims}
    {text : String} (h : signed key jwk claims = .ok text) (htime : claims.IsTimely) :
    ∃ signature, Ecdsa.sign? key (Utf8.encode (signingInput (.ofKey jwk) claims)) = some signature ∧
      ofText? text = some ⟨.ofKey jwk, claims, signature.toBytes⟩ := by
  obtain ⟨signature, hsign, rfl⟩ := exists_of_signed h
  refine ⟨signature, hsign, ?_⟩
  rw [ofText?, segments_signed]
  simp only [document?_segment (ProofHeader.ofKey jwk).says_toJson,
    document?_segment (ProofClaims.says_toJson htime), Base64.legible_urlSafe.decode?_encode]
  rfl

end Binding
end TicketGrant
