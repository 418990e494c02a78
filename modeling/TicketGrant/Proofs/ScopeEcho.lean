import TicketGrant.Proofs.FormBody
import TicketGrant.Proofs.Scopes
import TicketGrant.Proofs.Settlement
import TicketGrant.Proofs.TokenAnswers

/-!
# Scopes sent back

A server may answer with the scope parameter of the request as it was. The client then cuts at the
delimiter that it wrote, and at white space. It finds the scopes that it asked for exactly if none of
them holds the delimiter (`scope_echo`): if one does, no piece is that scope.
-/
namespace TicketGrant

open Http Text

namespace ScopeSet

variable {s : ScopeSet} {delimiter : Char} {raw : String}

/-- No scope holds the delimiter. -/
def Avoids (s : ScopeSet) (delimiter : Char) : Prop := ∀ scope ∈ s.toList, delimiter ∉ scope.toList

theorem avoids_of_isBlank (h : isBlank delimiter = true) : s.Avoids delimiter := by
  intro scope hscope hmem
  have hblank := List.all_eq_true.mp (s.valid scope hscope).2 delimiter hmem
  simp [h] at hblank

/-- Each scope that is read is a piece, so it does not hold the delimiter. -/
theorem avoids_of_ofDelimited (h : ofDelimited raw delimiter = .ok s) : s.Avoids delimiter := by
  intro scope hscope hmem
  rw [ofDelimited] at h
  split at h
  · cases h
    cases hscope
  · simp only at h
    split at h
    · cases h
    · rcases List.mem_map.mp ((mem_toList_of_ofList h).mp hscope) with ⟨word, hword, rfl⟩
      have hpiece := of_mem_pieces (List.mem_filter.mp hword).1 delimiter (by simpa using hmem)
      simp at hpiece

/-- Scopes that do not hold the delimiter are the pieces of what is written. -/
theorem pieces_delimited (hraw : s.delimited delimiter = some raw) (h : s.Avoids delimiter) :
    pieces (fun c => c == delimiter || isBlank c) raw.toList = s.toList.map String.toList := by
  have hlist := TokenRequest.toList_delimited s delimiter
  rw [hraw, Option.toList_some] at hlist
  split at hlist
  · cases hlist
  · rename_i hne
    have hchars : raw.toList = [delimiter].intercalate (s.toList.map String.toList) := by
      have hdelimiter : delimiter.toString.toList = [delimiter] := String.toList_singleton delimiter
      rw [List.singleton_inj.mp hlist, String.toList_intercalate, hdelimiter]
    rw [hchars]
    refine pieces_intercalate (by simp) (fun word hword c hc => ?_) (by simpa using hne)
    have hblank := (of_mem_map_toList hword).2 c hc
    rcases List.mem_map.mp hword with ⟨scope, hscope, rfl⟩
    have hother : c ≠ delimiter := fun heq => h scope hscope (heq ▸ hc)
    simp [hother, hblank]

/-- The scopes of a set are found again exactly if none of them holds the delimiter. -/
theorem ofDelimited_eq_ok_iff (hraw : s.delimited delimiter = some raw) :
    ofDelimited raw delimiter = .ok s ↔ s.Avoids delimiter := by
  refine ⟨avoids_of_ofDelimited, fun h => ?_⟩
  have hpieces := pieces_delimited hraw h
  have hscopes : ∀ word ∈ s.toList.map String.toList, (!word.isEmpty) = true := by
    intro word hword
    simpa using (of_mem_map_toList hword).1
  have hwords : (pieces (fun c => c == delimiter || isBlank c) raw.toList).filter (!·.isEmpty) =
      s.toList.map String.toList := by
    rw [hpieces, List.filter_eq_self.mpr hscopes]
  have hne : s.toList.map String.toList ≠ [] := by
    rw [← hpieces]
    simp [pieces]
  have hraw' : raw ≠ "" := by
    rintro rfl
    have hnil : [] ∈ s.toList.map String.toList := hpieces ▸ List.mem_singleton.mpr rfl
    simpa using hscopes [] hnil
  have hempty : (s.toList.map String.toList).isEmpty = false := by simpa using hne
  rw [ofDelimited, if_neg hraw']
  simp only [hwords, hempty, Bool.false_eq_true, if_false, map_ofList_map_toList]
  exact ofList_toList s

end ScopeSet

/-! ### Requests and answers -/

/-- The scope parameter of a token request is the scopes with the delimiter between them. -/
theorem Client.scope_mem_decode_iff (c : Client) (target : Target) (request : TokenRequest)
    (proof : Option String) {raw : String} :
    ("scope", raw) ∈ Form.decode (c.httpRequest target request proof).body ↔
      request.scope.delimited c.config.scopeDelimiter = some raw := by
  have hclaim : ("scope", raw) ∉ TokenRequest.claimEntries request.claimToken := by
    cases request.claimToken <;> simp [TokenRequest.claimEntries]
  have hcredentials : ("scope", raw) ∉ c.credentials.entries := by
    rw [credentials]
    split <;> simp
  rw [httpRequest, TokenRequest.formBody, Form.decode_encode]
  simp [TokenRequest.entries, TokenRequest.entry, hclaim, hcredentials]

/-- An answer that is a token without its scopes is a token with certain scopes exactly if these are
read. -/
theorem TokenAnswer.exists_token_iff {answer : TokenAnswer} {raw : String} {now : Instant}
    {delimiter : Char} {s : ScopeSet} (hscope : answer.scope = some raw)
    (hvalid : ∃ token, { answer with scope := none }.token now delimiter = .ok token) :
    (∃ token, answer.token now delimiter = .ok token ∧ token.scope = some s) ↔
      ScopeSet.ofDelimited raw delimiter = .ok s := by
  rw [← grantedScope_eq_ok_iff, ← hscope]
  constructor
  · rintro ⟨token, htoken, hs⟩
    rcases token_eq_ok_iff.mp htoken with ⟨_, _, _, scope, -, -, -, hgranted, rfl⟩
    rw [hgranted, show scope = some s from hs]
  · intro hgranted
    rcases hvalid with ⟨_, hvalid⟩
    rcases token_eq_ok_iff.mp hvalid with ⟨_, _, _, _, haccess, htype, hlifetime, -, -⟩
    exact ⟨_, token_eq_ok_iff.mpr ⟨_, _, _, _, haccess, htype, hlifetime, hgranted, rfl⟩, rfl⟩

theorem Client.exists_tokenIn_iff {c : Client} {response : Response} {now : Instant}
    {answer : TokenAnswer} {s : ScopeSet}
    (hread : c.codec.decode TokenAnswer.record.decode response.body = .ok answer) :
    (∃ token, c.tokenIn response now = .ok token ∧ token.scope = some s) ↔
      ∃ token, answer.token now c.config.scopeDelimiter = .ok token ∧ token.scope = some s := by
  simp only [tokenIn_eq, hread]
  cases answer.token now c.config.scopeDelimiter <;> simp [Except.mapError]

/-- Scopes with a delimiter between them are read as the same scopes exactly if none of them holds the
delimiter, as none holds white space. So a client finds the scopes that it asked for in an answer that
repeats its scope parameter and is a token otherwise exactly under that condition. -/
theorem scope_echo (s : ScopeSet) (hs : s.toList ≠ []) (delimiter : Char) :
    (∃ raw, s.delimited delimiter = some raw ∧
      (ScopeSet.ofDelimited raw delimiter = .ok s ↔
        ∀ scope ∈ s.toList, delimiter ∉ scope.toList)) ∧
    (isBlank delimiter = true → ∀ scope ∈ s.toList, delimiter ∉ scope.toList) ∧
    ∀ (c : Client) (target : Target) (request : TokenRequest) (proof : Option String)
      (response : Response) (now : Instant) (answer : TokenAnswer) (raw : String),
      request.scope = s → c.config.scopeDelimiter = delimiter →
      ("scope", raw) ∈ Form.decode (c.httpRequest target request proof).body →
      c.codec.decode TokenAnswer.record.decode response.body = .ok answer →
      answer.scope = some raw →
      (∃ token, { answer with scope := none }.token now delimiter = .ok token) →
      ((∃ token, c.tokenIn response now = .ok token ∧ token.scope = some s) ↔
        ∀ scope ∈ s.toList, delimiter ∉ scope.toList) := by
  refine ⟨?_, ScopeSet.avoids_of_isBlank, ?_⟩
  · have hlist := TokenRequest.toList_delimited s delimiter
    rw [if_neg hs] at hlist
    cases hraw : s.delimited delimiter with
    | none => simp [hraw] at hlist
    | some raw => exact ⟨raw, rfl, ScopeSet.ofDelimited_eq_ok_iff hraw⟩
  · rintro c target request proof response now answer raw rfl rfl hsent hread hscope hvalid
    have hraw := (c.scope_mem_decode_iff target request proof).mp hsent
    rw [Client.exists_tokenIn_iff hread, TokenAnswer.exists_token_iff hscope hvalid]
    exact ScopeSet.ofDelimited_eq_ok_iff hraw

/-- Two scopes with a comma between them come back; one that holds the comma does not. -/
theorem scope_echo_comma :
    let c : Client := { config := { scopeDelimiter := ',' } }
    let response : Response := ⟨⟨200⟩, [], Utf8.encode
      "\x7b\"access_token\":\"rpt\",\"token_type\":\"Bearer\",\"scope\":\"read,write\"\x7d"⟩
    let two : ScopeSet := ⟨.ofList ["write", "read"], by decide⟩
    let one : ScopeSet := ⟨.ofList ["read,write"], by decide⟩
    (∃ token, c.tokenIn response .epoch = .ok token ∧ token.scope = some two) ∧
      ¬ ∃ token, c.tokenIn response .epoch = .ok token ∧ token.scope = some one := by
  intro c response two one
  have hecho (s : ScopeSet) (hs : s.toList ≠ [])
      (hsent : ("scope", "read,write") ∈ Form.decode
        (c.httpRequest ⟨"https://as.example/token"⟩ { ticket := "first", scope := s } none).body) :
      (∃ token, c.tokenIn response .epoch = .ok token ∧ token.scope = some s) ↔
        ∀ scope ∈ s.toList, ',' ∉ scope.toList :=
    (scope_echo s hs ',').2.2 c _ { ticket := "first", scope := s } none response .epoch
      ⟨some "rpt", some "Bearer", none, some "read,write", none, none, none⟩ "read,write" rfl rfl hsent
      (by rfl) rfl ⟨_, rfl⟩
  constructor
  · exact (hecho two (by decide) (by decide +kernel)).mpr (by decide)
  · rw [hecho one (by decide) (by decide +kernel)]
    decide

end TicketGrant
