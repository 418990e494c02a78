import TicketGrant.Exchange
import TicketGrant.Proofs.Encoding.Base64
import TicketGrant.Proofs.Encoding.Utf8

/-!
# Fields that may be sent

A request is built only if the values of its fields may be sent. What a client puts into fields of
its own accord is visible ASCII, whatever its credentials and keys are: an `Authorization` value and
a proof are written in Base64. So every token request can be built once its endpoint can be a target
(`checked_httpRequest`).
-/
namespace TicketGrant

open Http Utf8

/-- A text of visible ASCII characters and spaces. -/
def IsVisible (text : String) : Prop := ∀ c ∈ text.toList, 0x20 ≤ c.toNat ∧ c.toNat < 0x7F

theorem isVisible_append {a b : String} (ha : IsVisible a) (hb : IsVisible b) :
    IsVisible (a ++ b) := by
  intro c hc
  rw [String.toList_append, List.mem_append] at hc
  exact hc.elim (ha c) (hb c)

theorem Base64.Alphabet.Legible.isVisible_encode {a : Alphabet} (h : a.Legible) (bytes : Bytes) :
    IsVisible (a.encode bytes) := by
  intro c hc
  rw [encode, String.toList_ofList] at hc
  have := h.visible_of_mem_digits hc
  omega

/-- A visible text may stand in a field. -/
theorem Http.Header.isLegal_ofText (name : String) {value : String} (h : IsVisible value) :
    (ofText name value).isLegal = true := by
  have hascii : Utf8.encode value = asciiBytes value.toList := by
    rw [← encode_ofList_of_ascii fun c hc => Nat.lt_of_lt_of_le (h c hc).2 (by decide),
      String.ofList_toList]
  rw [isLegal, ofText, hascii, List.all_eq_true]
  intro byte hbyte
  obtain ⟨c, hc, rfl⟩ := List.mem_map.mp hbyte
  obtain ⟨hlow, hhigh⟩ := h c hc
  have hnat : (UInt8.ofNat c.toNat).toNat = c.toNat := by
    rw [UInt8.toNat_ofNat', Nat.mod_eq_of_lt (by omega)]
  have hne : UInt8.ofNat c.toNat ≠ 0x7F := by
    rw [Ne, ← UInt8.toNat_inj, hnat]
    simp only [UInt8.reduceToNat]
    omega
  simp [inValue, UInt8.le_iff_toNat_le, hnat, hlow, hne]

/-! ### What a client writes into fields -/

theorem isVisible_basicAuthorization (clientId : String) (secret : Secret) :
    IsVisible (basicAuthorization clientId secret) :=
  isVisible_append (by simp [IsVisible]) (Base64.legible_standard.isVisible_encode _)

theorem Binding.isVisible_of_prove {s : Signer} {r : ProofRequest} {draw : Bytes} {now : Int}
    {text : String} (h : s.prove r draw now = .ok text) : IsVisible text := by
  obtain ⟨-, key, jwk, -, -, hsigned⟩ := Signer.of_prove h
  have hpoint : IsVisible "." := by simp [IsVisible]
  have hsegment (bytes : Bytes) : IsVisible (Base64.urlSafe.encode bytes) :=
    Base64.legible_urlSafe.isVisible_encode bytes
  rw [signed] at hsigned
  generalize Ecdsa.sign? key _ = signature? at hsigned
  cases signature? with
  | none => cases hsigned
  | some signature =>
    rw [withSignature, Except.ok.injEq] at hsigned
    have hinput : IsVisible (signingInput (.ofKey jwk) (r.claims draw now)) :=
      isVisible_append (isVisible_append (hsegment _) hpoint) (hsegment _)
    rw [← hsigned]
    exact isVisible_append (isVisible_append hinput hpoint) (hsegment _)

theorem Client.isVisible_authorization {c : Client} {value : String}
    (h : c.credentials.authorization = some value) : IsVisible value := by
  unfold credentials at h
  split at h
  · cases h
    exact isVisible_basicAuthorization _ _
  all_goals cases h

/-- Whether a token request can be built depends on its proof alone. -/
theorem Client.all_isLegal_httpRequest (c : Client) (target : Target) (request : TokenRequest)
    (proof : Option String) :
    (c.httpRequest target request proof).headers.all Header.isLegal =
      (proof.toList.map (Header.ofText "dpop")).all Header.isLegal := by
  have hcommon : [Header.ofText "content-type" "application/x-www-form-urlencoded",
      .ofText "accept" "application/json"].all Header.isLegal = true := by
    decide
  have hauthorization : (c.credentials.authorization.toList.map
      (Header.ofText "authorization")).all Header.isLegal = true := by
    rw [List.all_map, List.all_eq_true]
    intro value hvalue
    exact Header.isLegal_ofText _ (isVisible_authorization (Option.mem_toList.mp hvalue))
  rw [httpRequest, List.all_append, List.all_append, hcommon, hauthorization]
  rfl

/-- A token request can be built, if it has a proof that can be sent or none. -/
theorem Client.checked_httpRequest (c : Client) (target : Target) (request : TokenRequest)
    {proof : Option String} (hproof : ∀ text, proof = some text → IsVisible text) :
    (c.httpRequest target request proof).checked = .ok (c.httpRequest target request proof) := by
  refine if_pos ((c.all_isLegal_httpRequest target request proof).trans ?_)
  rw [List.all_map, List.all_eq_true]
  intro text htext
  exact Header.isLegal_ofText _ (hproof text (Option.mem_toList.mp htext))

end TicketGrant
