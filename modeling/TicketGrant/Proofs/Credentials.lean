import TicketGrant.Proofs.Encoding.Form
import TicketGrant.Proofs.Fields
import TicketGrant.Proofs.LegalFields

/-!
# Credentials

What a server learns about a client from the `Authorization` field. A value of the basic scheme can
be read by whoever knows the scheme (`basicAuthorization_read`): the colon between identifier and
secret is the only one, because both are form-encoded.
-/
namespace TicketGrant

open Http Utf8

/-! ### The basic scheme -/

/-- What is written in Base64 behind the name of the scheme. -/
def credentialBytes (clientId : String) (secret : Secret) : Bytes :=
  Form.partBytes clientId ++ 0x3A :: Form.partBytes secret.expose

theorem basicAuthorization_eq (clientId : String) (secret : Secret) :
    basicAuthorization clientId secret =
      "Basic " ++ Base64.standard.encode (credentialBytes clientId secret) := by
  have hascii : ∀ c ∈ Form.encodePart clientId ++ ':' :: Form.encodePart secret.expose,
      c.toNat < 0x80 := by
    intro c hc
    rw [List.mem_append, List.mem_cons] at hc
    rcases hc with hc | rfl | hc
    · exact (Form.isWrittenChar_of_mem_encodePart hc).1
    · decide
    · exact (Form.isWrittenChar_of_mem_encodePart hc).1
  rw [basicAuthorization, encode_ofList_of_ascii hascii, asciiBytes_append, asciiBytes_cons]
  rfl

/-- The bytes are ASCII. -/
theorem lt_of_mem_credentialBytes {clientId : String} {secret : Secret} {byte : UInt8}
    (h : byte ∈ credentialBytes clientId secret) : byte < 0x80 := by
  rw [credentialBytes, List.mem_append, List.mem_cons] at h
  have hpart {part : String} (h : byte ∈ Form.partBytes part) : byte < 0x80 := by
    have := Form.toNat_of_isWritten (Form.isWritten_of_mem_partBytes h)
    rw [UInt8.lt_iff_toNat_lt]
    exact Nat.lt_trans this.2.1 (by decide)
  rcases h with h | rfl | h
  · exact hpart h
  · decide
  · exact hpart h

/-- Identifier and secret, which stand before and behind the first colon. -/
def credentialsIn (bytes : Bytes) : String × Secret :=
  (Form.decodePart (bytes.takeWhile (· != 0x3A)),
    ⟨Form.decodePart ((bytes.dropWhile (· != 0x3A)).drop 1)⟩)

theorem credentialsIn_credentialBytes (clientId : String) (secret : Secret) :
    credentialsIn (credentialBytes clientId secret) = (clientId, secret) := by
  have hcolon : (0x3A : UInt8) ∉ Form.partBytes clientId := Form.not_mem_partBytes (by decide) _
  rw [credentialsIn, credentialBytes, Form.takeWhile_append_cons hcolon,
    Form.drop_dropWhile_append_cons hcolon, Form.decodePart_partBytes, Form.decodePart_partBytes]

/-- By the basic scheme, an identifier and a secret are read in a value. -/
def ReadAsBasic (value clientId : String) (secret : Secret) : Prop :=
  ∃ digits bytes, value = "Basic " ++ digits ∧ Base64.standard.decode? digits = some bytes ∧
    credentialsIn bytes = (clientId, secret)

theorem readAsBasic_basicAuthorization (clientId : String) (secret : Secret) :
    ReadAsBasic (basicAuthorization clientId secret) clientId secret :=
  ⟨_, _, basicAuthorization_eq clientId secret, Base64.legible_standard.decode?_encode _,
    credentialsIn_credentialBytes clientId secret⟩

/-- A value is read in one way. -/
theorem ReadAsBasic.unique {value clientId clientId' : String} {secret secret' : Secret}
    (h : ReadAsBasic value clientId secret) (h' : ReadAsBasic value clientId' secret') :
    clientId = clientId' ∧ secret = secret' := by
  obtain ⟨digits, bytes, rfl, hbytes, hpair⟩ := h
  obtain ⟨digits', bytes', hvalue, hbytes', hpair'⟩ := h'
  obtain rfl : digits = digits' := (String.append_right_inj _).mp hvalue
  obtain rfl : bytes = bytes' := Option.some.inj (hbytes.symm.trans hbytes')
  exact Prod.mk.inj (hpair.symm.trans hpair')

/-- Different credentials have different values. -/
theorem eq_of_basicAuthorization_eq {clientId clientId' : String} {secret secret' : Secret}
    (h : basicAuthorization clientId secret = basicAuthorization clientId' secret') :
    clientId = clientId' ∧ secret = secret' := by
  have hread' := readAsBasic_basicAuthorization clientId' secret'
  rw [← h] at hread'
  exact (readAsBasic_basicAuthorization clientId secret).unique hread'

theorem isLegal_basicAuthorization (clientId : String) (secret : Secret) :
    (Header.ofText "authorization" (basicAuthorization clientId secret)).isLegal = true :=
  Header.isLegal_ofText _ (isVisible_basicAuthorization clientId secret)

/-- A legal field more does not decide whether a request can be built. -/
theorem Http.Request.isOk_checked_insert {request : Request} {field : Header}
    (h : field.isLegal = true) (before after : List Header) :
    (Request.checked { request with headers := before ++ field :: after }).isOk =
      (Request.checked { request with headers := before ++ after }).isOk := by
  have hall : (before ++ field :: after).all Header.isLegal =
      (before ++ after).all Header.isLegal := by
    simp [h]
  simp only [checked, hall]
  split <;> rfl

/-! ### The field of a token request -/

/-- The fields of a token request with a name that only credentials or a proof can have. -/
theorem Client.fieldValues_httpRequest (c : Client) (target : Target) (request : TokenRequest)
    (proof : Option String) {name : String}
    (hcommon : fieldValues [.ofText "content-type" "application/x-www-form-urlencoded",
      .ofText "accept" "application/json"] name = []) :
    fieldValues (c.httpRequest target request proof).headers name =
      (if lowerName "authorization" = lowerName name then
        c.credentials.authorization.toList.map Utf8.encode else []) ++
      if lowerName "dpop" = lowerName name then proof.toList.map Utf8.encode else [] := by
  rw [httpRequest, fieldValues_append, fieldValues_append, hcommon, fieldValues_map_ofText,
    fieldValues_map_ofText, List.nil_append]

/-- The `Authorization` fields are those of the credentials. -/
theorem Client.fieldValues_authorization (c : Client) (target : Target) (request : TokenRequest)
    (proof : Option String) :
    fieldValues (c.httpRequest target request proof).headers "authorization" =
      c.credentials.authorization.toList.map Utf8.encode := by
  have hproof : lowerName "dpop" ≠ lowerName "authorization" := by decide +kernel
  rw [c.fieldValues_httpRequest target request proof (by decide +kernel), if_pos rfl,
    if_neg hproof, List.append_nil]

/-- The `DPoP` fields are the proof. -/
theorem Client.fieldValues_dpop (c : Client) (target : Target) (request : TokenRequest)
    (proof : Option String) :
    fieldValues (c.httpRequest target request proof).headers "dpop" =
      proof.toList.map Utf8.encode := by
  have hauthorization : lowerName "authorization" ≠ lowerName "dpop" := by decide +kernel
  rw [c.fieldValues_httpRequest target request proof (by decide +kernel), if_neg hauthorization,
    if_pos rfl, List.nil_append]

theorem Client.credentials_of_basic {c : Client} {id : String} {secret : Secret}
    (hmethod : c.config.clientAuth = .basic) (hid : c.clientId = some id)
    (hsecret : c.clientSecret = some secret) :
    c.credentials = { authorization := some (basicAuthorization id secret) } := by
  rw [credentials, hmethod, hid, hsecret]

/-- A value of the basic scheme is padded Base64 of ASCII bytes, and around the first colon of these
stand the identifier and the secret. So it belongs to one pair of credentials; and because it is
legal, no request fails to be built for it. -/
theorem basicAuthorization_read (clientId : String) (secret : Secret) :
    (∃ digits bytes, basicAuthorization clientId secret = "Basic " ++ digits ∧
      digits = Base64.standard.encode bytes ∧ digits.length % 4 = 0 ∧
      Base64.standard.decode? digits = some bytes ∧ (∀ byte ∈ bytes, byte < 0x80) ∧
      0x3A ∈ bytes ∧ credentialsIn bytes = (clientId, secret)) ∧
    (∀ clientId' secret',
      Header.ofText "authorization" (basicAuthorization clientId secret) =
          .ofText "authorization" (basicAuthorization clientId' secret') →
        clientId = clientId' ∧ secret = secret') ∧
    (Header.ofText "authorization" (basicAuthorization clientId secret)).isLegal = true ∧
    (∀ (request : Request) (before after : List Header),
      (Request.checked { request with
          headers := before ++ .ofText "authorization" (basicAuthorization clientId secret) ::
            after }).isOk =
        (Request.checked { request with headers := before ++ after }).isOk) ∧
    ∀ (c : Client) (target : Target) (request : TokenRequest),
      c.config.clientAuth = .basic → c.clientId = some clientId → c.clientSecret = some secret →
        fieldValues (c.httpRequest target request none).headers "authorization" =
          [Utf8.encode (basicAuthorization clientId secret)] ∧
        (c.httpRequest target request none).checked = .ok (c.httpRequest target request none) := by
  have hdigits : (Base64.standard.encode (credentialBytes clientId secret)).length % 4 = 0 := by
    rw [Base64.Alphabet.encode, String.length_ofList,
      Base64.Alphabet.length_digits_of_padded rfl]
    omega
  have hread := Base64.legible_standard.decode?_encode (credentialBytes clientId secret)
  have hcolon : 0x3A ∈ credentialBytes clientId secret := by simp [credentialBytes]
  refine ⟨⟨_, _, basicAuthorization_eq clientId secret, rfl, hdigits, hread,
    fun _ => lt_of_mem_credentialBytes, hcolon, credentialsIn_credentialBytes clientId secret⟩,
    ?_, isLegal_basicAuthorization clientId secret, ?_, ?_⟩
  · intro clientId' secret' h
    exact eq_of_basicAuthorization_eq (encode_injective (Header.mk.inj h).2)
  · intro request before after
    exact Request.isOk_checked_insert (isLegal_basicAuthorization clientId secret) before after
  · intro c target request hmethod hid hsecret
    refine ⟨?_, c.checked_httpRequest target request fun _ h => by cases h⟩
    rw [c.fieldValues_authorization, Client.credentials_of_basic hmethod hid hsecret]
    rfl

/-- A colon does not move from the identifier into the secret unseen. -/
theorem basicAuthorization_ne_of_moved_colon :
    Header.ofText "authorization" (basicAuthorization "a:" ⟨"b"⟩) ≠
        .ofText "authorization" (basicAuthorization "a" ⟨":b"⟩) ∧
      fieldValues (Client.httpRequest { clientId := some "a:", clientSecret := some ⟨"b"⟩ }
          ⟨"https://as.example/"⟩ { ticket := "t" } none).headers "authorization" =
        [Utf8.encode (basicAuthorization "a:" ⟨"b"⟩)] := by
  obtain ⟨-, hpairs, -, -, hsent⟩ := basicAuthorization_read "a:" ⟨"b"⟩
  exact ⟨fun h => absurd (hpairs _ _ h).1 (by decide),
    (hsent { clientId := some "a:", clientSecret := some ⟨"b"⟩ } _ _ rfl rfl rfl).1⟩

end TicketGrant
