import TicketGrant.Grant.Request
import TicketGrant.Proofs.Encoding.Form

/-!
# Form bodies

What a server reads in a token request. The parameters that it finds are those of the grant, in
their order, each that is set and none that is not, and behind them the entries that were added;
no value can add a parameter, hide one or change another (`decode_formBody`).
-/
namespace TicketGrant.TokenRequest

/-- The entries of the parameters that are set. -/
def shown (parameters : List (String × Option Secret)) : List (String × String) :=
  parameters.filterMap fun (name, value) => value.map fun secret => (name, secret.expose)

@[simp] theorem shown_nil : shown [] = [] := rfl

@[simp] theorem shown_cons (name : String) (value : Option Secret)
    (parameters : List (String × Option Secret)) :
    shown ((name, value) :: parameters) = entry name value ++ shown parameters := by
  cases value <;> rfl

/-- There is a text of scopes exactly if there are scopes. -/
theorem toList_delimited (s : ScopeSet) (delimiter : Char) :
    (s.delimited delimiter).toList =
      if s.toList = [] then [] else [delimiter.toString.intercalate s.toList] := by
  have hempty : s.isEmpty = true ↔ s.toList = [] := by
    simp [ScopeSet.isEmpty, ScopeSet.toList, Text.Ordered.isEmpty, Text.Ordered.toList]
  by_cases h : s.toList = []
  · rw [ScopeSet.delimited, if_pos (hempty.mpr h), if_pos h, Option.toList_none]
  · rw [ScopeSet.delimited, if_neg fun hnone => h (hempty.mp hnone), if_neg h, Option.toList_some]

/-- What a grant presents with a ticket and a claim: both of them, the claim with its format, then
the secrets that are set, and the scopes as one text. -/
def presented (r : TokenRequest) (delimiter : Char) (ticket : String) (claim : Option ClaimToken) :
    List (String × String) :=
  [("grant_type", "urn:ietf:params:oauth:grant-type:uma-ticket"), ("ticket", ticket)] ++
  (match claim with
    | none => []
    | some claim => [("claim_token", claim.value.expose), ("claim_token_format", claim.format)]) ++
  shown [("pop", r.pop), ("code_verifier", r.codeVerifier), ("pct", r.pct), ("rpt", r.rpt)] ++
  (if r.scope.toList = [] then []
    else [("scope", delimiter.toString.intercalate r.scope.toList)])

/-- A request presents its own ticket and claim. -/
theorem entries_eq (r : TokenRequest) (delimiter : Char) :
    r.entries delimiter = r.presented delimiter r.ticket r.claimToken := by
  have hscope : ((r.scope.delimited delimiter).toList.map fun scope => ("scope", scope)) =
      if r.scope.toList = [] then []
      else [("scope", delimiter.toString.intercalate r.scope.toList)] := by
    rw [toList_delimited]
    split <;> rfl
  rw [entries, hscope]
  cases r.claimToken with
  | none => simp [presented, claimEntries, ticketGrant]
  | some claim => simp [presented, claimEntries, ticketGrant]

/-- A server that reads a form body finds the grant, the ticket, the claim with its format, the
secrets that are set, the scopes in increasing order, and then the added entries. -/
theorem decode_formBody (r : TokenRequest) (delimiter : Char) (more : List (String × String)) :
    Form.decode (Utf8.encode (r.formBody delimiter more)) =
        [("grant_type", "urn:ietf:params:oauth:grant-type:uma-ticket"), ("ticket", r.ticket)] ++
        (match r.claimToken with
          | none => []
          | some claim =>
            [("claim_token", claim.value.expose), ("claim_token_format", claim.format)]) ++
        shown [("pop", r.pop), ("code_verifier", r.codeVerifier), ("pct", r.pct),
          ("rpt", r.rpt)] ++
        (if r.scope.toList = [] then []
          else [("scope", delimiter.toString.intercalate r.scope.toList)]) ++
        more ∧
      r.scope.toList.Pairwise (· < ·) := by
  refine ⟨?_, r.scope.scopes.sorted⟩
  rw [formBody, Form.decode_encode, entries_eq]
  rfl

end TicketGrant.TokenRequest
