import TicketGrant.Client
import TicketGrant.Flow

/-!
# Discovery

A client learns about an authorization server from one request for the server's metadata. Nothing
is kept and nothing is tried twice.
-/
namespace TicketGrant

open Http

namespace Client

/-- The request for metadata. -/
def metadataRequest (target : Target) : Request where
  method := .get
  target
  headers := [.ofText "accept" "application/json"]
  body := []

/-- The failure of a request for metadata that a transport failed to deliver. -/
def unreached (uri : Url) (failure : TransportFailure × Option AnswerHead) : Failure :=
  .metadataUnavailable uri (failure.2.bind (·.status)) (some failure.1)

/-- The metadata in an answer. -/
def metadataIn (c : Client) (uri : Url) (response : Response) : Except Failure Metadata :=
  let malformed := Failure.metadataMalformed uri (some response.status)
  if !response.status.isSuccess then .error (.metadataUnavailable uri (some response.status) none)
  else match c.codec.decode Metadata.decode response.body with
    | .error fault => .error (malformed (.unreadable fault))
    | .ok metadata =>
      match metadata.insecure? with
      | some (field, endpoint) =>
        if c.config.requireHttps then .error (malformed (.insecure field endpoint))
        else .ok metadata
      | none => .ok metadata

/-- Fetches the metadata of a server. -/
def fetchMetadata (c : Client) (server : Url) : Flow Metadata := do
  let uri ← match Metadata.location? server with
    | some uri => pure uri
    | none => throw (.setup (.serverUri server.render))
  let target ← Flow.ofExcept (fun fault => .setup (.request fault)) (Target.ofUrl uri)
  let answer ← ExceptT.lift (Flow.send (metadataRequest target))
  let response ← Flow.ofExcept (unreached uri) answer
  Flow.ofExcept id (c.metadataIn uri response)

/-- The metadata of a server. -/
def metadata (c : Client) (server : Url) : Flow Metadata :=
  Flow.observed .discovery "metadata" (c.fetchMetadata server)

end Client
end TicketGrant
