import TicketGrant.Client
import TicketGrant.Flow

/-!
# Exchanges

One round of a negotiation is one exchange: a token request and its answer. A bound request carries
a proof, and if the server demands its nonce in the proof, the request goes out once more with it;
then the second answer counts, whatever it is.
-/
namespace TicketGrant

open Http

namespace Client

/-- How the client's requests are bound: by its signer, in the first algorithm that the server
supports. -/
def choice? (c : Client) (metadata : Metadata) : Option Binding.Choice := do
  let signer ← c.signer
  let algorithm ← Binding.select? metadata.algorithms? c.config.algorithms
  some ⟨signer, algorithm⟩

/-- The token request that is sent. -/
def httpRequest (c : Client) (target : Target) (request : TokenRequest) (proof : Option String) :
    Request where
  method := .post
  target
  headers :=
    [.ofText "content-type" "application/x-www-form-urlencoded",
      .ofText "accept" "application/json"] ++
    (c.credentials.authorization.toList.map (.ofText "authorization")) ++
    (proof.toList.map (.ofText "dpop"))
  body := Utf8.encode (request.formBody c.config.scopeDelimiter c.credentials.entries)

/-- The proof for a request, if it is bound. -/
def proof (endpoint : Url) (choice : Option Binding.Choice) (nonce : Option String) :
    Flow (Option String) :=
  match choice with
  | none => pure none
  | some choice => do
    let bytes ← Flow.draw
    let now ← Flow.now
    let asked : Binding.ProofRequest :=
      { method := Method.post.name, uri := endpoint, algorithm := choice.algorithm, nonce }
    let text ← Flow.ofExcept .signing (choice.signer.prove asked bytes now.unixSeconds)
    pure (some text)

/-- The failure of a token request that a transport failed to deliver. -/
def undelivered (failure : TransportFailure × Option AnswerHead) : Failure :=
  .exchange (.transport failure.1 (failure.2.bind (·.status)) (failure.2.bind (·.retryAfter)))

/-- Sends a token request once. -/
def sendOnce (c : Client) (endpoint : Url) (choice : Option Binding.Choice)
    (request : TokenRequest) (nonce : Option String) : Flow Response := do
  let proof ← proof endpoint choice nonce
  let target ← Flow.ofExcept (fun fault => .setup (.request fault)) (Target.ofUrl endpoint)
  let sent ← Flow.ofExcept (fun fault => .setup (.request fault))
    (c.httpRequest target request proof).checked
  let answer ← ExceptT.lift (Flow.send sent)
  Flow.ofExcept undelivered answer

/-- The nonce that an answer demands: a client's error with that code, and a readable nonce. -/
def demandedNonce? (c : Client) (response : Response) : Option String := do
  let nonce ← readable? (← fieldValue? response.headers "dpop-nonce")
  if response.status.isClientError ∧ (Refusal.ofBody c.codec response.body).kind = .useDpopNonce
  then some nonce
  else none

/-- One exchange. -/
def exchange (c : Client) (endpoint : Url) (choice : Option Binding.Choice)
    (request : TokenRequest) : Flow Response := do
  let response ← c.sendOnce endpoint choice request none
  match choice, c.demandedNonce? response with
  | some used, some nonce => do
    Flow.observe (.resend used.algorithm)
    Flow.observe (.nonceRetry used.algorithm)
    c.sendOnce endpoint choice request (some nonce)
  | _, _ => pure response

end Client
end TicketGrant
