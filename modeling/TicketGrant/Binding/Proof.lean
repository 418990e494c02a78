import TicketGrant.Binding.Signer
import TicketGrant.Codec
import TicketGrant.Url.Basic

/-!
# Proofs

A proof says in a signed text which key a request is bound to. It has three segments with points
between them: a header with the public key, the claims, and the signature over both. The claims
name the request's method and its URL without query and fragment, an identifier of 16 drawn bytes,
the time, and where given the hash of an access token and the server's nonce.
-/
namespace TicketGrant.Binding

/-- What a proof claims. -/
structure ProofClaims where
  /-- The identifier. -/
  jti : String
  /-- The method. -/
  htm : String
  /-- The URL. -/
  htu : String
  /-- The time, in seconds. -/
  iat : Int
  /-- The hash of an access token. -/
  ath : Option String
  nonce : Option String
deriving DecidableEq

namespace ProofClaims

/-- The member for a text that may be missing. -/
def member (name : String) (text : Option String) : List (String × Json.Value) :=
  text.toList.map fun content => (name, .text content)

/-- The claims as JSON. -/
def toJson (c : ProofClaims) : Json.Value :=
  .record ([("jti", .text c.jti), ("htm", .text c.htm), ("htu", .text c.htu),
    ("iat", .integer c.iat)] ++ member "ath" c.ath ++ member "nonce" c.nonce)

/-- The fields of the claims. -/
def record : Json.Record ProofClaims :=
  ProofClaims.mk <$> .required "jti" .text <*> .required "htm" .text <*> .required "htu" .text
    <*> .required "iat" (Json.Decoder.integer (-9223372036854775808) 9223372036854775807)
    <*> .optional "ath" .text <*> .optional "nonce" .text

end ProofClaims

/-- What the header of a proof tells. -/
structure ProofHeader where
  /-- The type of the text. -/
  typ : String
  /-- The algorithm of the signature. -/
  alg : String
  jwk : PublicJwk
deriving DecidableEq

namespace ProofHeader

/-- The header of the proofs made with a key. -/
def ofKey (jwk : PublicJwk) : ProofHeader := ⟨"dpop+jwt", es256, jwk⟩

/-- The header as JSON. -/
def toJson (h : ProofHeader) : Json.Value :=
  .record [("typ", .text h.typ), ("alg", .text h.alg), ("jwk", h.jwk.toJson)]

/-- The fields of a header. -/
def record : Json.Record ProofHeader :=
  ProofHeader.mk <$> .required "typ" .text <*> .required "alg" .text
    <*> .required "jwk" PublicJwk.decode

end ProofHeader

/-- The segment of a document. -/
def segment (document : Json.Value) : String :=
  Base64.urlSafe.encode (Utf8.encode document.render)

/-- What a signature is over. -/
def signingInput (header : ProofHeader) (claims : ProofClaims) : String :=
  segment header.toJson ++ "." ++ segment claims.toJson

/-- What a proof is asked to say. -/
structure ProofRequest where
  method : String
  uri : Url
  algorithm : String
  accessTokenHash : Option String := none
  nonce : Option String := none

/-- The claims of a proof, from 16 drawn bytes and the time. -/
def ProofRequest.claims (r : ProofRequest) (draw : Bytes) (now : Int) : ProofClaims :=
  ⟨Base64.urlSafe.encode draw, r.method, r.uri.withoutQuery.render, now, r.accessTokenHash, r.nonce⟩

/-- A text with its signature behind it. -/
def withSignature (input : String) : Option Ecdsa.Signature → Except SigningFault String
  | some signature => .ok (input ++ "." ++ Base64.urlSafe.encode signature.toBytes)
  | none => .error .noSignature

/-- The proof that a key makes. -/
def signed (key : P256.PrivateKey) (jwk : PublicJwk) (claims : ProofClaims) :
    Except SigningFault String :=
  let input := signingInput (.ofKey jwk) claims
  withSignature input (Ecdsa.sign? key (Utf8.encode input))

/-- The proof that a signer makes. The algorithm is looked at before the key. -/
def Signer.prove (s : Signer) (r : ProofRequest) (draw : Bytes) (now : Int) :
    Except SigningFault String :=
  if r.algorithm ≠ es256 then .error (.unsupported r.algorithm)
  else match s.key, s.publicJwk? with
    | some key, some jwk => signed key jwk (r.claims draw now)
    | _, _ => .error .noKey

theorem fault_of_signed {key : P256.PrivateKey} {jwk : PublicJwk} {claims : ProofClaims}
    {fault : SigningFault} (h : signed key jwk claims = .error fault) : fault = .noSignature := by
  rw [signed] at h
  generalize Ecdsa.sign? key _ = signature? at h
  cases signature? with
  | none =>
    cases h
    rfl
  | some signature => cases h

theorem Signer.prove_eq {s : Signer} {r : ProofRequest} {draw : Bytes} {now : Int}
    (h : r.algorithm = es256) :
    s.prove r draw now = match s.key, s.publicJwk? with
      | some key, some jwk => signed key jwk (r.claims draw now)
      | _, _ => .error .noKey :=
  if_neg fun hne => hne h

/-- A signer that makes a proof has a key, and signs the claims with it. -/
theorem Signer.of_prove {s : Signer} {r : ProofRequest} {draw : Bytes} {now : Int} {text : String}
    (h : s.prove r draw now = .ok text) :
    r.algorithm = es256 ∧ ∃ key jwk, s.key = some key ∧ s.publicJwk? = some jwk ∧
      signed key jwk (r.claims draw now) = .ok text := by
  by_cases halgorithm : r.algorithm = es256
  · rw [prove_eq halgorithm] at h
    refine ⟨halgorithm, ?_⟩
    generalize s.key = key? at h ⊢
    generalize s.publicJwk? = jwk? at h ⊢
    cases key? with
    | none => cases h
    | some key =>
      cases jwk? with
      | none => cases h
      | some jwk => exact ⟨key, jwk, rfl, rfl, h⟩
  · rw [prove, if_pos halgorithm] at h
    cases h

/-- A signer that makes a proof can only fail to sign another one in its algorithm. -/
theorem Signer.fault_of_prove {s : Signer} {r r' : ProofRequest} {draw draw' : Bytes}
    {now now' : Int} {text : String} {fault : SigningFault} (h : s.prove r draw now = .ok text)
    (hfault : s.prove r' draw' now' = .error fault) (hsame : r'.algorithm = r.algorithm) :
    fault = .noSignature := by
  obtain ⟨halgorithm, key, jwk, hkey, hjwk, -⟩ := of_prove h
  rw [prove_eq (hsame.trans halgorithm), hkey, hjwk] at hfault
  exact fault_of_signed hfault

/-- A proof taken apart. -/
structure Proof where
  header : ProofHeader
  claims : ProofClaims
  signature : Bytes
deriving DecidableEq

namespace Proof

/-- The document of a segment. -/
def document? {α : Type} (decoder : Json.Decoder α) (segment : String) : Option α := do
  let bytes ← Base64.urlSafe.decode? segment
  (Json.decode decoder bytes).toOption

/-- The segments of a text, between its points. -/
def segments (text : String) : List String :=
  (Text.pieces (· == '.') text.toList).map String.ofList

/-- Reads a proof. -/
def ofText? (text : String) : Option Proof :=
  match segments text with
  | [header, claims, signature] => do
    some {
      header := ← document? ProofHeader.record.decode header
      claims := ← document? ProofClaims.record.decode claims
      signature := ← Base64.urlSafe.decode? signature }
  | _ => none

/-- Whether the signature in a proof's text fits the key in its header. -/
def isVerified (text : String) : Bool :=
  match segments text, ofText? text with
  | [header, claims, _], some proof =>
    match Ecdsa.Signature.ofBytes? proof.signature, proof.header.jwk.point? with
    | some signature, some (x, y) =>
      Ecdsa.verify x y (Utf8.encode (header ++ "." ++ claims)) signature
    | _, _ => false
  | _, _ => false

end Proof
end TicketGrant.Binding
