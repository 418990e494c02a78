import TicketGrant.Config
import TicketGrant.Grant.Challenge
import TicketGrant.Metadata
import TicketGrant.Proofs.ProofText
import TicketGrant.Proofs.Scopes
import TicketGrant.Secret

/-!
# Values that survive their documents

Whatever has a JSON form can be written, and is read back as it was: scope sets, secrets, ways to
authenticate, demanded claims, configurations, public keys, and the metadata of a server as far as
its URLs are read back as they were. For each of them a lemma tells what its JSON form says
(`ScopeSet.says_toJson` and its siblings), field by field for the records; `wireForms_keep` brings
them together.
-/
namespace TicketGrant

open Json Text

/-! ### What the JSON form of each kind says -/

theorem ScopeSet.says_toJson (s : ScopeSet) : s.toJson.Says ScopeSet.decode s := by
  have hread : (ofString s.normalized).toOption = some s := by
    rw [ofString_normalized]
    rfl
  exact (Value.says_text s.normalized).filterMap hread

theorem Secret.says_toJson (s : Secret) : s.toJson.Says Secret.decode s :=
  (Value.says_text s.expose).map Secret.mk

theorem ClientAuth.says_toJson (m : ClientAuth) : m.toJson.Says ClientAuth.decode m := by
  refine ⟨rfl, ?_⟩
  rw [ClientAuth.toJson, Value.node, ClientAuth.decode, Decoder.choice, ofName?_name]

theorem Text.Ordered.says_toJson (s : Ordered) : s.toJson.Says Ordered.decode s := by
  have h := (Value.says_texts s.toList).map Ordered.ofList
  rwa [Ordered.ofList_toList] at h

/-- A URL survives if it is parsed from its own text. -/
theorem Url.says_toJson {u : Url} (h : Url.parse? u.render = some u) :
    u.toJson.Says Url.decode u :=
  (Value.says_text u.render).filterMap h

theorem Config.says_toJson (c : Config) : c.toJson.Says Config.decode c := by
  have hdepth : (Value.integer c.maxDepth.toNat).Says Config.decodeDepth c.maxDepth := by
    have hrange : 0 ≤ (c.maxDepth.toNat : Int) ∧ (c.maxDepth.toNat : Int) ≤ 4294967295 := by
      have := c.maxDepth.toNat_lt
      omega
    have h := (Value.says_integer hrange).map fun n => UInt32.ofNat n.toNat
    rwa [Int.toNat_natCast, UInt32.ofNat_toNat] at h
  have halgorithms := Value.says_texts c.algorithms
  have hauth := c.clientAuth.says_toJson
  have hhttps := Value.says_bool c.requireHttps
  have hdelimiter : (Value.text c.scopeDelimiter.toString).Says
      (Decoder.text.filterMap Config.singleChar?) c.scopeDelimiter :=
    (Value.says_text _).filterMap (by simp [Config.singleChar?])
  refine Value.says_record (by simp [hauth.whole]) (by simp) ?_
  exact ((((Record.finds_field rfl hdepth).map _ |>.seq (Record.finds_field rfl halgorithms)).seq
    (Record.finds_field rfl hauth)).seq (Record.finds_field rfl hhttps)).seq
      (Record.finds_field rfl hdelimiter)

theorem RequiredClaim.says_toJson (c : RequiredClaim) :
    c.toJson.Says RequiredClaim.decode c := by
  have hformats := Value.says_texts c.formats
  have hnames : ((("claim_token_format", Value.texts c.formats) ::
      member "claim_type" c.claimType ++ member "friendly_name" c.friendlyName ++
      member "issuer" c.issuer ++ member "name" c.name).map (·.1)).Sublist
        ["claim_token_format", "claim_type", "friendly_name", "issuer", "name"] := by
    simp only [List.map_append, List.map_cons]
    exact ((((names_optional_sublist _ _ _).cons_cons _).append
      (names_optional_sublist _ _ _)).append (names_optional_sublist _ _ _)).append
        (names_optional_sublist _ _ _)
  refine Value.says_record ?whole (hnames.nodup (by decide)) ?finds
  case whole =>
    intro m hm
    simp only [member, List.cons_append, List.mem_cons, List.mem_append, List.mem_map] at hm
    rcases hm with rfl | (((⟨t, _, rfl⟩ | ⟨t, _, rfl⟩) | ⟨t, _, rfl⟩) | ⟨t, _, rfl⟩)
    · exact hformats.whole
    all_goals rfl
  case finds =>
    refine ((((Record.finds_field ?_ hformats).map _ |>.seq (Record.finds_nullable_text ?_)).seq
      (Record.finds_nullable_text ?_)).seq (Record.finds_nullable_text ?_)).seq
        (Record.finds_nullable_text ?_)
    all_goals simp [member, lookup_cons_eq_ite, lookup_optional, List.lookup_append]

/-- The URLs of the metadata. -/
def Metadata.urls (m : Metadata) : List Url := [m.issuer, m.tokenEndpoint] ++ m.jwksUri.toList

/-- Each URL of the metadata is parsed from its own text. -/
def Metadata.HasStableUrls (m : Metadata) : Prop := ∀ u ∈ m.urls, Url.parse? u.render = some u

theorem Metadata.says_toJson {m : Metadata} (h : m.HasStableUrls) :
    m.toJson.Says Metadata.decode m := by
  have hissuer := Url.says_toJson (h m.issuer (by simp [urls]))
  have htoken := Url.says_toJson (h m.tokenEndpoint (by simp [urls]))
  have hjwks (u : Url) (hu : m.jwksUri = some u) : u.toJson.Says Url.decode u :=
    Url.says_toJson (h u (by simp [urls, hu]))
  have hgrants := m.grantTypes.says_toJson
  have halgorithms := m.proofAlgorithms.says_toJson
  have hprofiles := m.profiles.says_toJson
  have hnames : ((([("issuer", m.issuer.toJson), ("token_endpoint", m.tokenEndpoint.toJson)] ++
      (m.jwksUri.toList.map fun uri => ("jwks_uri", uri.toJson)) ++
      [("grant_types_supported", m.grantTypes.toJson),
       ("dpop_signing_alg_values_supported", m.proofAlgorithms.toJson),
       ("uma_profiles_supported", m.profiles.toJson)]).map (·.1)).Sublist
        ["issuer", "token_endpoint", "jwks_uri", "grant_types_supported",
          "dpop_signing_alg_values_supported", "uma_profiles_supported"]) := by
    simp only [List.map_append]
    exact ((List.Sublist.refl _).append (names_optional_sublist _ _ _)).append (List.Sublist.refl _)
  refine Value.says_record ?whole (hnames.nodup (by decide)) ?finds
  case whole =>
    intro v hv
    simp only [List.mem_append, List.mem_cons, List.not_mem_nil, or_false, List.mem_map] at hv
    rcases hv with ((rfl | rfl) | ⟨u, _, rfl⟩) | rfl | rfl | rfl
    · exact hissuer.whole
    · exact htoken.whole
    · rfl
    · exact hgrants.whole
    · exact halgorithms.whole
    · exact hprofiles.whole
  case finds =>
    refine (((((Record.finds_field ?_ hissuer).map _ |>.seq (Record.finds_field ?_ htoken)).seq
      (Record.finds_nullable ?_ hjwks)).seq (Record.finds_field ?_ hgrants)).seq
        (Record.finds_field ?_ halgorithms)).seq (Record.finds_field ?_ hprofiles)
    all_goals simp [lookup_cons_eq_ite, lookup_optional, List.lookup_append, Url.toJson]

/-! ### Writing and reading -/

/-- How the values of a kind are written and read. -/
structure WireForm (α : Type) where
  toJson : α → Value
  decode : Decoder α

namespace WireForm

variable {α : Type}

/-- The document of a value. -/
def write (form : WireForm α) (a : α) : Except Fault String := Json.encode (form.toJson a)

/-- The value in a body. -/
def read (form : WireForm α) (body : Bytes) : Except Fault α := Codec.plain.decode form.decode body

/-- The value in the document that is written of the value in a body. -/
def reread (form : WireForm α) (body : Bytes) : Except Fault α := do
  let a ← form.read body
  let text ← form.write a
  form.read (Utf8.encode text)

/-- Values survive as far as `assumed` holds of them. -/
structure Keeps (form : WireForm α) (assumed : α → Prop) : Prop where
  /-- A value is written, and read back as it was. -/
  read_write : ∀ a, assumed a →
    ∃ text, form.write a = .ok text ∧ form.read (Utf8.encode text) = .ok a
  /-- To write what was read and to read it again changes nothing, whether or not a value was
  read. -/
  reread_eq : ∀ body, (∀ a, form.read body = .ok a → assumed a) → form.reread body = form.read body

/-- Values survive if their JSON form says what they are. -/
theorem keeps_of_says {form : WireForm α} {assumed : α → Prop}
    (h : ∀ a, assumed a → (form.toJson a).Says form.decode a) : form.Keeps assumed where
  read_write a ha := (h a ha).exists_encode
  reread_eq body hbody := by
    rw [reread]
    cases hread : form.read body with
    | error fault => rfl
    | ok a =>
      obtain ⟨text, hwrite, hback⟩ := (h a (hbody a hread)).exists_encode
      change (form.write a >>= fun text => form.read (Utf8.encode text)) = .ok a
      rw [write, hwrite]
      exact hback

end WireForm

def ScopeSet.wireForm : WireForm ScopeSet := ⟨toJson, decode⟩

def Secret.wireForm : WireForm Secret := ⟨toJson, decode⟩

def ClientAuth.wireForm : WireForm ClientAuth := ⟨toJson, decode⟩

def RequiredClaim.wireForm : WireForm RequiredClaim := ⟨toJson, decode⟩

def Config.wireForm : WireForm Config := ⟨toJson, decode⟩

def Binding.PublicJwk.wireForm : WireForm PublicJwk := ⟨toJson, decode⟩

def Metadata.wireForm : WireForm Metadata := ⟨toJson, decode⟩

/-- Lists of values of a kind. -/
def WireForm.list {α : Type} (form : WireForm α) : WireForm (List α) :=
  ⟨fun values => .list (values.map form.toJson), .list form.decode⟩

/-- Whatever has a JSON form survives its document; metadata does if its URLs are parsed from their
own texts. -/
theorem wireForms_keep :
    ScopeSet.wireForm.Keeps (fun _ => True) ∧
    Secret.wireForm.Keeps (fun _ => True) ∧
    ClientAuth.wireForm.Keeps (fun _ => True) ∧
    RequiredClaim.wireForm.Keeps (fun _ => True) ∧
    RequiredClaim.wireForm.list.Keeps (fun _ => True) ∧
    Config.wireForm.Keeps (fun _ => True) ∧
    Binding.PublicJwk.wireForm.Keeps (fun _ => True) ∧
    Metadata.wireForm.Keeps Metadata.HasStableUrls := by
  refine ⟨?_, ?_, ?_, ?_, ?_, ?_, ?_, ?_⟩
  · exact WireForm.keeps_of_says fun s _ => s.says_toJson
  · exact WireForm.keeps_of_says fun s _ => Secret.says_toJson s
  · exact WireForm.keeps_of_says fun m _ => m.says_toJson
  · exact WireForm.keeps_of_says fun c _ => c.says_toJson
  · exact WireForm.keeps_of_says fun _ _ => Value.says_list fun c _ => c.says_toJson
  · exact WireForm.keeps_of_says fun c _ => c.says_toJson
  · exact WireForm.keeps_of_says fun k _ => k.says_toJson
  · exact WireForm.keeps_of_says fun _ hm => Metadata.says_toJson hm

/-- A server on the local host that names its keys, a grant and two algorithms. -/
def localMetadata : Metadata where
  issuer := ⟨"https", some ⟨"", "", .ipv6 [0, 0, 0, 0, 0, 0, 0, 1], none⟩, false, .rooted [""],
    none, none⟩
  tokenEndpoint := ⟨"https", some ⟨"", "", .ipv6 [0, 0, 0, 0, 0, 0, 0, 1], some 8443⟩, false,
    .rooted ["token"], none, none⟩
  jwksUri := some ⟨"https", some ⟨"", "", .ipv6 [0, 0, 0, 0, 0, 0, 0, 1], none⟩, false,
    .rooted ["keys"], some "alg=ES256", none⟩
  grantTypes := .ofList [ticketGrant]
  proofAlgorithms := .ofList ["ES256", "ES384"]
  profiles := .empty

/-- URLs as servers have them are parsed from their own texts. -/
theorem localMetadata_survives : ∃ text, Metadata.wireForm.write localMetadata = .ok text ∧
    Metadata.wireForm.read (Utf8.encode text) = .ok localMetadata := by
  have hstable : localMetadata.HasStableUrls := by
    rw [Metadata.HasStableUrls]
    decide +kernel
  obtain ⟨-, -, -, -, -, -, -, hmetadata⟩ := wireForms_keep
  exact hmetadata.read_write localMetadata hstable

end TicketGrant
