import TicketGrant.Json.Decoder
import TicketGrant.Json.Value
import TicketGrant.Outline
import TicketGrant.Text.Blank

/-!
# Configuration

What a client may be told about how it negotiates: a budget of rounds, signing algorithms in order
of preference, how it authenticates, whether it insists on HTTPS, and what separates scopes in form
parameters. A document need only name what it changes.
-/
namespace TicketGrant

/-- How a client authenticates at the token endpoint. -/
inductive ClientAuth where
  /-- Identifier and secret in the `Authorization` header. -/
  | basic
  /-- Identifier and secret among the form parameters. -/
  | post
  /-- No secret is sent. -/
  | none
deriving DecidableEq

namespace ClientAuth

/-- The method's name in documents. -/
def name : ClientAuth → String
  | .basic => "client_secret_basic"
  | .post => "client_secret_post"
  | .none => "none"

/-- The method of a name. -/
def ofName? (name : String) : Option ClientAuth :=
  [ClientAuth.basic, .post, .none].find? (·.name == name)

@[simp] theorem ofName?_name (m : ClientAuth) : ofName? m.name = some m := by
  cases m <;> decide

/-- What is shown of a method. -/
def outline : ClientAuth → Outline
  | .basic => .atom "ClientSecretBasic"
  | .post => .atom "ClientSecretPost"
  | .none => .atom "None"

/-- A method in a JSON document. -/
def decode : Json.Decoder ClientAuth := Json.Decoder.choice ofName?

/-- A method as JSON. -/
def toJson (m : ClientAuth) : Json.Value := .text m.name

end ClientAuth

/-- The one algorithm that this library signs with. -/
def es256 : String := "ES256"

/-- How a client negotiates. -/
structure Config where
  /-- How many demands for claims one negotiation may answer. -/
  maxDepth : UInt32 := 5
  /-- Signing algorithms, the preferred one first. -/
  algorithms : List String := [es256]
  clientAuth : ClientAuth := .basic
  /-- Whether servers have to be reached by HTTPS. -/
  requireHttps : Bool := false
  /-- What stands between scopes in a form parameter. -/
  scopeDelimiter : Char := ' '
deriving DecidableEq

/-- What is wrong with a configuration. -/
inductive ConfigFault where
  /-- The delimiter is a control character. -/
  | delimiter (delimiter : Char)
  /-- The name of an algorithm is blank. -/
  | blankAlgorithm
deriving DecidableEq

/-- What the fault tells. -/
def ConfigFault.message : ConfigFault → String
  | .delimiter _ => "Scope delimiter must be a printable character."
  | .blankAlgorithm => "DPoP algorithm names cannot be empty."

namespace Config

/-- The first fault of a configuration. -/
def fault? (c : Config) : Option ConfigFault :=
  if Text.isControl c.scopeDelimiter then some (.delimiter c.scopeDelimiter)
  else if c.algorithms.any (·.toList.all Text.isBlank) then some .blankAlgorithm
  else none

/-- What is shown of a configuration. -/
def outline (c : Config) : Outline :=
  .fields "NegotiatorConfig" [
    ("max_depth", .nat c.maxDepth.toNat),
    ("dpop_algorithms", .list (c.algorithms.map .text)),
    ("client_auth_method", c.clientAuth.outline),
    ("require_https", .bool c.requireHttps),
    ("scope_delimiter", .char c.scopeDelimiter)]

/-- A text of one character. -/
def singleChar? (text : String) : Option Char :=
  match text.toList with
  | [c] => some c
  | _ => none

/-- A number of 32 bits in a JSON document. -/
def decodeDepth : Json.Decoder UInt32 := fun node =>
  (Json.Decoder.integer 0 4294967295 node).map fun n => UInt32.ofNat n.toNat

/-- The fields of a configuration. -/
def record : Json.Record Config :=
  Config.mk <$> .defaulted "max_depth" decodeDepth 5
    <*> .defaulted "dpop_algorithms" (.list .text) [es256]
    <*> .defaulted "client_auth_method" ClientAuth.decode .basic
    <*> .defaulted "require_https" .bool false
    <*> .defaulted "scope_delimiter" (Json.Decoder.text.filterMap singleChar?) ' '

/-- A configuration in a JSON document. -/
def decode : Json.Decoder Config := record.decode

/-- A configuration as JSON. -/
def toJson (c : Config) : Json.Value := .record [
  ("max_depth", .integer c.maxDepth.toNat),
  ("dpop_algorithms", .texts c.algorithms),
  ("client_auth_method", c.clientAuth.toJson),
  ("require_https", .bool c.requireHttps),
  ("scope_delimiter", .text c.scopeDelimiter.toString)]

end Config
end TicketGrant
