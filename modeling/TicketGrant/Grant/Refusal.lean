import TicketGrant.Codec
import TicketGrant.Outline

/-!
# Refusals

A server that does not agree answers with an error code and perhaps a description. Every body is
read as a refusal: one without a code, or that cannot be read at all, has a code of its own.
-/
namespace TicketGrant

/-- What an error code means to a negotiation. -/
inductive RefusalKind where
  /-- The ticket is expired, used or unknown. -/
  | invalidGrant
  /-- The scopes cannot be granted. -/
  | invalidScope
  /-- More claims are demanded. -/
  | needInfo
  | requestDenied
  /-- The proof has to carry the server's nonce. -/
  | useDpopNonce
  | other (code : String)
deriving DecidableEq

namespace RefusalKind

/-- The kinds that have a code of their own. -/
def known : List RefusalKind :=
  [.invalidGrant, .invalidScope, .needInfo, .requestDenied, .useDpopNonce]

/-- The code of a kind. -/
def code : RefusalKind → String
  | .invalidGrant => "invalid_grant"
  | .invalidScope => "invalid_scope"
  | .needInfo => "need_info"
  | .requestDenied => "request_denied"
  | .useDpopNonce => "use_dpop_nonce"
  | .other code => code

/-- The kind of a code. -/
def ofCode (code : String) : RefusalKind :=
  match known.find? (·.code == code) with
  | some kind => kind
  | none => .other code

/-- What is shown of a kind. -/
def outline : RefusalKind → Outline
  | .invalidGrant => .atom "InvalidGrant"
  | .invalidScope => .atom "InvalidScope"
  | .needInfo => .atom "NeedInfo"
  | .requestDenied => .atom "RequestDenied"
  | .useDpopNonce => .atom "UseDpopNonce"
  | .other code => .tuple "Other" [.text code]

theorem code_ofCode (code : String) : (ofCode code).code = code := by
  unfold ofCode
  split
  · rename_i kind h
    simpa using List.find?_some h
  · rfl

end RefusalKind

/-- An answer that is no token. -/
structure Refusal where
  /-- The error code. -/
  code : String
  description : Option String
deriving DecidableEq

namespace Refusal

/-- The code of a body that names none. -/
def undefinedCode : String := "undefined"

/-- The code of a body that cannot be read. -/
def unexpectedCode : String := "Unexpected"

/-- What an error body holds: a code and a description. -/
def record : Json.Record (Option String × Option String) :=
  Prod.mk <$> .optional "error" .text <*> .optional "error_description" .text

/-- The refusal in a body. -/
def ofBody (codec : Codec) (body : Bytes) : Refusal :=
  match codec.decode record.decode body with
  | .ok (some code, description) => ⟨code, description⟩
  | .ok (none, _) => ⟨undefinedCode, none⟩
  | .error fault =>
    ⟨unexpectedCode, some ("Unable to parse the error response: " ++ fault.message)⟩

/-- What the refusal means. -/
def kind (r : Refusal) : RefusalKind := .ofCode r.code

end Refusal
end TicketGrant
