import TicketGrant.Codec
import TicketGrant.Http.Status
import TicketGrant.Text.Ordered
import TicketGrant.Url.Parser

/-!
# Demands for claims

A refusal may demand claims: it brings a new ticket, and says which claims are wanted and in which
formats. Without a new ticket there is no demand that could be met.
-/
namespace TicketGrant

/-- One claim that is demanded. -/
structure RequiredClaim where
  /-- The formats that the server reads. -/
  formats : List String := []
  claimType : Option String := none
  friendlyName : Option String := none
  issuer : Option String := none
  name : Option String := none
deriving DecidableEq

namespace RequiredClaim

/-- The fields of a demanded claim. -/
def record : Json.Record RequiredClaim :=
  RequiredClaim.mk <$> .defaulted "claim_token_format" (.list .text) []
    <*> .defaulted "claim_type" Json.Decoder.text.nullable none
    <*> .defaulted "friendly_name" Json.Decoder.text.nullable none
    <*> .defaulted "issuer" Json.Decoder.text.nullable none
    <*> .defaulted "name" Json.Decoder.text.nullable none

/-- A demanded claim in a JSON document. -/
def decode : Json.Decoder RequiredClaim := record.decode

/-- The member for a text that may be missing. -/
def member (name : String) (text : Option String) : List (String × Json.Value) :=
  text.toList.map fun content => (name, .text content)

/-- A demanded claim as JSON. -/
def toJson (c : RequiredClaim) : Json.Value :=
  .record (("claim_token_format", .texts c.formats) :: member "claim_type" c.claimType ++
    member "friendly_name" c.friendlyName ++ member "issuer" c.issuer ++ member "name" c.name)

end RequiredClaim

/-- A demand for claims. -/
structure Challenge where
  /-- The ticket of the next round. -/
  ticket : String
  requiredClaims : List RequiredClaim
  /-- Where the requesting party can be sent to answer in person. -/
  redirectUser : Option Url
  /-- The status of the answer that brought the demand. -/
  status : Option Http.Status
deriving DecidableEq

/-- The members of a demand, as they stand in its body. -/
structure ChallengeAnswer where
  ticket : Option String
  requiredClaims : List RequiredClaim
  redirectUser : Option String

/-- The fields of a demand. -/
def ChallengeAnswer.record : Json.Record ChallengeAnswer :=
  ChallengeAnswer.mk <$> .defaulted "ticket" Json.Decoder.text.nullable none
    <*> .defaulted "required_claims" (.list RequiredClaim.decode) []
    <*> .defaulted "redirect_user" Json.Decoder.text.nullable none

namespace Challenge

/-- The demand in a body. A place to go to that is no URL is left out. -/
def ofBody? (codec : Codec) (body : Bytes) (status : Option Http.Status) : Option Challenge := do
  let answer ← (codec.decode ChallengeAnswer.record.decode body).toOption
  let ticket ← answer.ticket
  if ticket = "" then none
  else some {
    ticket
    requiredClaims := answer.requiredClaims
    redirectUser := answer.redirectUser.bind Url.parse?
    status }

/-- A demand keeps the status of its answer, and its ticket is not empty. -/
theorem of_ofBody? {codec : Codec} {body : Bytes} {status : Option Http.Status}
    {challenge : Challenge} (h : ofBody? codec body status = some challenge) :
    challenge.status = status ∧ challenge.ticket ≠ "" := by
  simp only [ofBody?, Option.bind_eq_bind, Option.bind_eq_some_iff] at h
  obtain ⟨answer, -, ticket, -, h⟩ := h
  split at h
  · cases h
  · cases h; exact ⟨rfl, by assumption⟩

/-- All formats that the server reads. -/
def formats (c : Challenge) : Text.Ordered := .ofList (c.requiredClaims.flatMap (·.formats))

/-- Whether the server reads a format for one of its claims. -/
def accepts (c : Challenge) (format : String) : Bool :=
  c.requiredClaims.any (·.formats.contains format)

end Challenge
end TicketGrant
