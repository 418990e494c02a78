import TicketGrant.Claim
import TicketGrant.Encoding.Form
import TicketGrant.Metadata
import TicketGrant.Scope

/-!
# Token requests

A token request presents a permission ticket and what goes with it. It does not change: the answer
to a demand for claims is a request of its own, with the new ticket and the new claim.
-/
namespace TicketGrant

/-- What is presented for a ticket. -/
structure TokenRequest where
  ticket : String
  claimToken : Option ClaimToken := none
  /-- A proof of possession that the caller brings along. -/
  pop : Option Secret := none
  codeVerifier : Option Secret := none
  /-- The scopes asked for; none leave the choice to the server. -/
  scope : ScopeSet := .empty
  /-- A claims token kept from an earlier negotiation. -/
  pct : Option Secret := none
  /-- A token that the server may upgrade. -/
  rpt : Option Secret := none
deriving DecidableEq

namespace TokenRequest

/-- The request of the next round: ticket and claim are replaced. -/
def nextRound (r : TokenRequest) (ticket : String) (claim : ClaimToken) : TokenRequest :=
  { r with ticket := ticket, claimToken := some claim }

/-- The form entry of a value that may be missing. -/
def entry (name : String) (value : Option Secret) : List (String × String) :=
  value.toList.map fun secret => (name, secret.expose)

/-- The form entries of a claim token. -/
def claimEntries (claim : Option ClaimToken) : List (String × String) :=
  match claim with
  | none => []
  | some c => [("claim_token", c.value.expose), ("claim_token_format", c.format)]

/-- The form entries of a request, the grant first. -/
def entries (r : TokenRequest) (delimiter : Char) : List (String × String) :=
  [("grant_type", ticketGrant), ("ticket", r.ticket)] ++ claimEntries r.claimToken ++
    entry "pop" r.pop ++ entry "code_verifier" r.codeVerifier ++ entry "pct" r.pct ++
    entry "rpt" r.rpt ++ ((r.scope.delimited delimiter).toList.map fun scope => ("scope", scope))

/-- The form body of a request, with entries that follow those of the grant. -/
def formBody (r : TokenRequest) (delimiter : Char) (more : List (String × String)) : String :=
  Form.encode (r.entries delimiter ++ more)

/-- What is shown of a request. -/
def outline (r : TokenRequest) : Outline :=
  .fields "TokenRequest" [
    ("ticket", .text r.ticket),
    ("claim_token", .option ClaimToken.outline r.claimToken),
    ("pop", .option Secret.outline r.pop),
    ("code_verifier", .option Secret.outline r.codeVerifier),
    ("scope", r.scope.outline),
    ("pct", .option Secret.outline r.pct),
    ("rpt", .option Secret.outline r.rpt)]

end TokenRequest
end TicketGrant
