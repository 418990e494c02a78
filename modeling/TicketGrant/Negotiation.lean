import TicketGrant.Discovery
import TicketGrant.Exchange

/-!
# Negotiation

A negotiation exchanges a ticket for a token, round by round. A success ends it, and so does every
refusal but one: a demand for claims goes to the resolver, as long as there is a budget, and the
claim that it finds is presented with the demand's ticket in the next round.
-/
namespace TicketGrant

open Http

/-- The failure that a refusal means, unless it is a demand for claims. -/
def Refusal.failure? (refusal : Refusal) (status : Status) : Option Failure :=
  if !status.isClientError then some (.exchange (.unexpectedStatus status refusal.description))
  else match refusal.kind with
    | .needInfo => none
    | .invalidGrant => some (.invalidGrant (some status) refusal.description)
    | .invalidScope => some (.invalidScope (some status) refusal.description)
    | .requestDenied => some (.denied (some status) refusal.description)
    | .useDpopNonce | .other _ =>
      some (.exchange (.server refusal.code refusal.description (some status)))

/-- The claim that a resolver found. -/
def Resolution.claimToken (status : Option Status) : Resolution → Except Failure ClaimToken
  | .claim token => .ok token
  | .nothing => .error (.denied status (some "claim resolver produced no claim token"))
  | .abort a => .error (.denied status (some a.message))

namespace Client

/-- The token in a successful answer. -/
def tokenIn (c : Client) (response : Response) (now : Instant) : Except ExchangeFailure Token := do
  let answer ← (c.codec.decode TokenAnswer.record.decode response.body).mapError
    (.unreadableToken · (some response.status))
  (answer.token now c.config.scopeDelimiter).mapError (.invalidToken · (some response.status))

/-- The demand for claims in an answer, which has to bring a ticket. -/
def challengeIn (c : Client) (response : Response) : Except Failure Challenge :=
  match Challenge.ofBody? c.codec response.body (some response.status) with
  | some challenge => .ok challenge
  | none => .error (.denied (some response.status)
      (some "need_info challenge carried no replacement ticket"))

/-- Has a demand for claims met. -/
def meet (remaining : Nat) (challenge : Challenge) : Flow ClaimToken := do
  Flow.observe (.challenge remaining challenge.requiredClaims.length)
  Flow.observe .round
  let resolution ← Flow.resolve challenge
  Flow.ofExcept id (resolution.claimToken challenge.status)

/-- The rounds of a negotiation, with some of the budget remaining. -/
def rounds (c : Client) (endpoint : Url) (choice : Option Binding.Choice) (budget : Nat)
    (remaining : Nat) (request : TokenRequest) : Flow Token := do
  let response ← c.exchange endpoint choice request
  if response.status.isSuccess then
    let now ← Flow.now
    Flow.ofExcept .exchange (c.tokenIn response now)
  else
    let refusal := Refusal.ofBody c.codec response.body
    match refusal.failure? response.status with
    | some failure => throw failure
    | none =>
      match remaining with
      | 0 => throw (.exhausted budget (some response.status) refusal.description)
      | left + 1 => do
        let challenge ← Flow.ofExcept id (c.challengeIn response)
        let claim ← meet (left + 1) challenge
        c.rounds endpoint choice budget left (request.nextRound challenge.ticket claim)

/-- A whole negotiation. Nothing is sent under a configuration that is at fault. -/
def negotiation (c : Client) (stage : String) (endpoint : Url) (choice : Option Binding.Choice)
    (budget : UInt32) (request : TokenRequest) : Flow Token :=
  Flow.observed .negotiation stage <|
    match c.config.fault? with
    | some fault => throw (.setup (.config fault))
    | none => c.rounds endpoint choice budget.toNat budget.toNat request

/-- Exchanges a request at an endpoint of which nothing else is known, so nothing is bound. -/
def negotiate (c : Client) (endpoint : Url) (request : TokenRequest) (budget : UInt32) :
    Flow Token :=
  c.negotiation "negotiate" endpoint none budget request

/-- Exchanges a request at the endpoint of a server's metadata. -/
def token (c : Client) (metadata : Metadata) (request : TokenRequest) : Flow Token :=
  c.negotiation "token" metadata.tokenEndpoint (c.choice? metadata) c.config.maxDepth request

/-- Discovers a server and exchanges a request there. -/
def obtainToken (c : Client) (server : Url) (request : TokenRequest) : Flow Token := do
  let metadata ← c.metadata server
  if metadata.allowsTickets then c.token metadata request
  else throw (.setup (.unsupportedGrant metadata.issuer.render ticketGrant))

end Client
end TicketGrant
