import TicketGrant.Dialogue
import TicketGrant.Binding.Proof
import TicketGrant.Grant.Refusal
import TicketGrant.Grant.Request

/-!
# Clients

A client has a configuration and perhaps credentials and a signer. From these follow the parts of
each token request that do not depend on the ticket.
-/
namespace TicketGrant

open Http

/-- Who negotiates. -/
structure Client where
  config : Config := {}
  /-- How bodies are opened. -/
  codec : Codec := .plain
  clientId : Option String := none
  clientSecret : Option Secret := none
  /-- The holder of the key that token requests are bound to. -/
  signer : Option Binding.Signer := none

/-- How a request shows who sends it. -/
structure Credentials where
  /-- The value of the `Authorization` field. -/
  authorization : Option String := none
  /-- The form entries. -/
  entries : List (String × String) := []
deriving DecidableEq

/-- The value of an `Authorization` field with identifier and secret. Both are form-encoded first,
so the colon between them is the only one. -/
def basicAuthorization (clientId : String) (secret : Secret) : String :=
  "Basic " ++ Base64.standard.encode (Utf8.encode
    (String.ofList (Form.encodePart clientId ++ ':' :: Form.encodePart secret.expose)))

namespace Client

/-- What the client's requests show of it. A secret is sent only by the methods for it, and only
with an identifier. -/
def credentials (c : Client) : Credentials :=
  match c.config.clientAuth, c.clientId, c.clientSecret with
  | .basic, some id, some secret => { authorization := some (basicAuthorization id secret) }
  | .post, some id, some secret =>
    { entries := [("client_id", id), ("client_secret", secret.expose)] }
  | _, some id, _ => { entries := [("client_id", id)] }
  | _, none, _ => {}

/-- A copy of a client. -/
def clone (c : Client) : Client where
  config := c.config
  codec := c.codec
  clientId := c.clientId
  clientSecret := c.clientSecret
  signer := c.signer

/-- What is shown of a client. -/
def outline (c : Client) : Outline :=
  .fields "UmaClient" [
    ("config", c.config.outline),
    ("client_id", .option .text c.clientId),
    ("client_secret_set", .bool c.clientSecret.isSome),
    ("dpop_signer", .option Binding.Signer.outline c.signer)]

end Client
end TicketGrant
