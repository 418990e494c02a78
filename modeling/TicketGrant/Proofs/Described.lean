import TicketGrant.Proofs.Secrecy

/-!
# What is not shown

Described values show of a secret that it is set, and of a key that it is held. So two values that
agree on everything else are described by the same text, on one line and on several
(`described_alike`).
-/
namespace TicketGrant

/-! ### Secrets that may be missing -/

/-- Two optional values are shown alike if both are missing, or what they hold is shown alike. -/
theorem Outline.option_congr {α : Type} {alike : α → α → Prop} {describe : α → Outline}
    {a b : Option α} (h : Option.Rel alike a b)
    (hdescribe : ∀ a b, alike a b → describe a = describe b) :
    Outline.option describe a = Outline.option describe b := by
  cases h with
  | none => rfl
  | some h => rw [Outline.option, Outline.option, hdescribe _ _ h]

/-- A secret shows only whether it is set. -/
theorem Secret.option_outline_congr {a b : Option Secret} (h : a.isSome = b.isSome) :
    Outline.option Secret.outline a = Outline.option Secret.outline b := by
  rcases a with _ | a
  · rcases b with _ | b
    · rfl
    · cases h
  · rcases b with _ | b
    · cases h
    · rfl

/-! ### Values that differ in what is secret -/

/-- Two claims of one format. -/
def ClaimToken.LooksLike (a b : ClaimToken) : Prop := a.format = b.format

/-- Two requests that differ in their secrets at most, and have the same ones set. -/
structure TokenRequest.LooksLike (a b : TokenRequest) : Prop where
  ticket : a.ticket = b.ticket
  claimToken : Option.Rel ClaimToken.LooksLike a.claimToken b.claimToken
  pop : a.pop.isSome = b.pop.isSome
  codeVerifier : a.codeVerifier.isSome = b.codeVerifier.isSome
  scope : a.scope = b.scope
  pct : a.pct.isSome = b.pct.isSome
  rpt : a.rpt.isSome = b.rpt.isSome

/-- Two tokens that differ in their secrets at most, and have the same ones set. -/
structure Token.LooksLike (a b : Token) : Prop where
  tokenType : a.tokenType = b.tokenType
  expiresIn : a.expiresIn = b.expiresIn
  scope : a.scope = b.scope
  refreshToken : a.refreshToken.isSome = b.refreshToken.isSome
  pct : a.pct.isSome = b.pct.isSome
  upgraded : a.upgraded = b.upgraded
  issuedAt : a.issuedAt = b.issuedAt

/-- Two clients with one configuration and one identifier. Both have a secret or neither does, and so
it is with signers and with their keys. -/
structure Client.LooksLike (a b : Client) : Prop where
  config : a.config = b.config
  clientId : a.clientId = b.clientId
  clientSecret : a.clientSecret.isSome = b.clientSecret.isSome
  signer : Option.Rel Binding.Signer.Resembles a.signer b.signer

theorem ClaimToken.LooksLike.outline_eq {a b : ClaimToken} (h : a.LooksLike b) :
    a.outline = b.outline := by
  have hformat : a.format = b.format := h
  rw [outline, outline, hformat]
  rfl

theorem TokenRequest.LooksLike.outline_eq {a b : TokenRequest} (h : a.LooksLike b) :
    a.outline = b.outline := by
  have hclaim : Outline.option ClaimToken.outline a.claimToken =
      Outline.option ClaimToken.outline b.claimToken :=
    Outline.option_congr h.claimToken fun _ _ hclaim => hclaim.outline_eq
  rw [outline, outline, h.ticket, hclaim, Secret.option_outline_congr h.pop,
    Secret.option_outline_congr h.codeVerifier, h.scope, Secret.option_outline_congr h.pct,
    Secret.option_outline_congr h.rpt]

theorem Token.LooksLike.outline_eq {a b : Token} (h : a.LooksLike b)
    (showDuration : Duration → Outline) (showInstant : Instant → Outline) :
    a.outline showDuration showInstant = b.outline showDuration showInstant := by
  have haccess : a.accessToken.outline = b.accessToken.outline := rfl
  rw [outline, outline, haccess, h.tokenType, h.expiresIn, h.scope,
    Secret.option_outline_congr h.refreshToken, Secret.option_outline_congr h.pct, h.upgraded,
    h.issuedAt]

/-- A signer shows its algorithms, and those only tell whether it holds a key. -/
theorem Binding.Signer.Resembles.outline_eq {a b : Signer} (h : a.Resembles b) :
    a.outline = b.outline := by
  have hkey : a.key.isSome = b.key.isSome := h
  rw [Signer.outline, Signer.outline, Signer.algorithms, Signer.algorithms, hkey]

theorem Client.LooksLike.outline_eq {a b : Client} (h : a.LooksLike b) : a.outline = b.outline := by
  have hsigner : Outline.option Binding.Signer.outline a.signer =
      Outline.option Binding.Signer.outline b.signer :=
    Outline.option_congr h.signer fun _ _ hsigner => hsigner.outline_eq
  rw [outline, outline, h.config, h.clientId, h.clientSecret, hsigner]

/-- Two values are described by the same text, on one line and on several. -/
def Outline.SameText (o o' : Outline) : Prop := o.line = o'.line ∧ o.lines = o'.lines

theorem Outline.sameText_of_eq {o o' : Outline} (h : o = o') : o.SameText o' := by
  subst h
  exact ⟨rfl, rfl⟩

/-- No secret shows in a described claim, request, token or client, nor does a key, and a copy of a
client is described as the client is. -/
theorem described_alike :
    (∀ a b : ClaimToken, a.LooksLike b → a.outline.SameText b.outline) ∧
    (∀ a b : TokenRequest, a.LooksLike b → a.outline.SameText b.outline) ∧
    (∀ (showDuration : Duration → Outline) (showInstant : Instant → Outline) (a b : Token),
      a.LooksLike b →
      (a.outline showDuration showInstant).SameText (b.outline showDuration showInstant)) ∧
    (∀ a b : Client, a.LooksLike b → a.outline.SameText b.outline) ∧
    ∀ c : Client, c.clone.outline.SameText c.outline := by
  refine ⟨?_, ?_, ?_, ?_, ?_⟩
  · intro a b h
    exact Outline.sameText_of_eq h.outline_eq
  · intro a b h
    exact Outline.sameText_of_eq h.outline_eq
  · intro showDuration showInstant a b h
    exact Outline.sameText_of_eq (h.outline_eq showDuration showInstant)
  · intro a b h
    exact Outline.sameText_of_eq h.outline_eq
  · intro c
    exact Outline.sameText_of_eq rfl

/-- Requests, tokens and clients with other secrets and another key. A length of time is shown by its
seconds and the rest, and the one moment here as a date. -/
theorem described_alike_samples :
    let request (secret : String) : TokenRequest :=
      { ticket := "first", claimToken := some (.idToken ⟨secret⟩), pop := some ⟨secret⟩
        codeVerifier := some ⟨secret⟩, pct := some ⟨secret⟩, rpt := some ⟨secret⟩ }
    let token (secret : String) : Token :=
      { accessToken := ⟨secret⟩, tokenType := "Bearer", expiresIn := some (.seconds 3600)
        scope := none, refreshToken := some ⟨secret⟩, pct := some ⟨secret⟩, upgraded := true
        issuedAt := .epoch }
    let client (secret : String) (key : P256.PrivateKey) : Client :=
      { clientId := some "app", clientSecret := some ⟨secret⟩, signer := some ⟨some key⟩ }
    let showDuration (d : Duration) : Outline := .fields "Duration"
      [("seconds", .atom (toString (d.nanos / 1000000000))),
       ("nanoseconds", .atom (toString (d.nanos % 1000000000)))]
    let showInstant (_ : Instant) : Outline := .atom "1970-01-01 0:00:00.0 +00:00:00"
    let a := client "one" ⟨1, by decide, by decide⟩
    let b := client "two" ⟨2, by decide, by decide⟩
    (Outline.SameText (ClaimToken.idToken ⟨"one"⟩).outline (ClaimToken.idToken ⟨"two"⟩).outline ∧
        (request "one").outline.SameText (request "two").outline) ∧
      ((token "one").outline showDuration showInstant).SameText
        ((token "two").outline showDuration showInstant) ∧
      a.outline.SameText b.outline ∧ a.clone.outline.SameText a.outline := by
  intro request token client showDuration showInstant a b
  rcases described_alike with ⟨hclaim, hrequest, htoken, hclient, hclone⟩
  exact ⟨⟨hclaim _ _ rfl, hrequest _ _ ⟨rfl, .some rfl, rfl, rfl, rfl, rfl, rfl⟩⟩,
    htoken _ _ _ _ ⟨rfl, rfl, rfl, rfl, rfl, rfl, rfl⟩, hclient _ _ ⟨rfl, rfl, rfl, .some rfl⟩,
    hclone a⟩

end TicketGrant
