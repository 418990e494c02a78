import TicketGrant.Codec
import TicketGrant.Scope
import TicketGrant.Secret
import TicketGrant.Time

/-!
# Issued tokens

A server that agrees answers with a token. The answer has to hold a token and its type, a lifetime
that ends in range, and scopes that can be read. Both separators are understood in the scopes.
-/
namespace TicketGrant

/-- The members of a token answer, as they stand in it. -/
structure TokenAnswer where
  accessToken : Option String
  tokenType : Option String
  expiresIn : Option Int
  scope : Option String
  refreshToken : Option String
  pct : Option String
  upgraded : Option Bool
deriving DecidableEq

/-- A number of 64 bits with a sign in a JSON document. -/
def decodeSeconds : Json.Decoder Int :=
  Json.Decoder.integer (-9223372036854775808) 9223372036854775807

/-- The fields of a token answer. -/
def TokenAnswer.record : Json.Record TokenAnswer :=
  TokenAnswer.mk <$> .optional "access_token" .text
    <*> .optional "token_type" .text
    <*> .optional "expires_in" decodeSeconds
    <*> .optional "scope" .text
    <*> .optional "refresh_token" .text
    <*> .optional "pct" .text
    <*> .optional "upgraded" .bool

/-- A token with what goes with it. -/
structure Token where
  accessToken : Secret
  tokenType : String
  expiresIn : Option Duration
  scope : Option ScopeSet
  refreshToken : Option Secret
  pct : Option Secret
  /-- Whether the token presented with the request was upgraded. -/
  upgraded : Bool
  /-- When the answer came. -/
  issuedAt : Instant
deriving DecidableEq

/-- What keeps a token answer from being one. -/
inductive TokenFault where
  | noAccessToken
  | noTokenType
  | negativeLifetime
  /-- The token would expire after the last instant. -/
  | lifetimeOutOfRange
  | scope (fault : ScopeError)
deriving DecidableEq

/-- What the fault tells. -/
def TokenFault.message : TokenFault → String
  | .noAccessToken => "missing access_token"
  | .noTokenType => "missing token_type"
  | .negativeLifetime => "negative expires_in"
  | .lifetimeOutOfRange => "expires_in is out of range"
  | .scope fault => fault.message

namespace TokenAnswer

/-- A text that must be there and not be empty. -/
def demand (text : Option String) (fault : TokenFault) : Except TokenFault String :=
  match text with
  | none => .error fault
  | some text => if text = "" then .error fault else .ok text

/-- The lifetime of a token issued at an instant. -/
def lifetime (issuedAt : Instant) : Option Int → Except TokenFault (Option Duration)
  | none => .ok none
  | some seconds =>
    if seconds < 0 then .error .negativeLifetime
    else if (issuedAt.add? (.seconds seconds)).isNone then .error .lifetimeOutOfRange
    else .ok (some (.seconds seconds))

/-- The granted scopes. -/
def grantedScope (delimiter : Char) : Option String → Except TokenFault (Option ScopeSet)
  | none => .ok none
  | some raw => ((ScopeSet.ofDelimited raw delimiter).map some).mapError .scope

/-- The token of an answer. -/
def token (answer : TokenAnswer) (issuedAt : Instant) (delimiter : Char) :
    Except TokenFault Token := do
  let accessToken ← demand answer.accessToken .noAccessToken
  let tokenType ← demand answer.tokenType .noTokenType
  let expiresIn ← lifetime issuedAt answer.expiresIn
  let scope ← grantedScope delimiter answer.scope
  .ok {
    accessToken := ⟨accessToken⟩
    tokenType
    expiresIn
    scope
    refreshToken := answer.refreshToken.map Secret.mk
    pct := answer.pct.map Secret.mk
    upgraded := answer.upgraded.getD false
    issuedAt }

end TokenAnswer

namespace Token

/-- When the token expires, if its lifetime is known and ends in range. -/
def expiresAt (t : Token) : Option Instant := t.expiresIn.bind t.issuedAt.add?

/-- What is shown of a token. How a length and a moment of time are shown is not decided here. -/
def outline (showDuration : Duration → Outline) (showInstant : Instant → Outline) (t : Token) :
    Outline :=
  .fields "TokenResponse" [
    ("access_token", t.accessToken.outline),
    ("token_type", .text t.tokenType),
    ("expires_in", .option showDuration t.expiresIn),
    ("scope", .option ScopeSet.outline t.scope),
    ("refresh_token", .option Secret.outline t.refreshToken),
    ("pct", .option Secret.outline t.pct),
    ("upgraded", .bool t.upgraded),
    ("issued_at", showInstant t.issuedAt)]

end Token
end TicketGrant
