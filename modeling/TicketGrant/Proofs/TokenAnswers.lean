import TicketGrant.Proofs.Json.Accepted
import TicketGrant.Proofs.ScopeReaders
import TicketGrant.Proofs.Settlement

/-!
# Answers that are tokens

An answer is a token if it can be read and what it holds is in order: a token and its type, a
lifetime that ends within the years that can be told, and scopes or none. What cannot be read and
what is not in order are different failures, and both keep the status. A token that was accepted
expires exactly as many seconds after its answer as it said, as the same sum is made again
(`tokens_of_answers`).
-/
namespace TicketGrant

open Http Json Text

namespace TokenAnswer

variable {answer : TokenAnswer} {now : Instant} {delimiter : Char} {token : Token}

/-! ### The members of an answer -/

/-- The answer holds what is told by the nodes that are found under the names of its members. -/
structure IsToldBy (answer : TokenAnswer) (find : String → Option Node) : Prop where
  accessToken : Record.Tells .text (find "access_token") answer.accessToken
  tokenType : Record.Tells .text (find "token_type") answer.tokenType
  expiresIn : Record.Tells decodeSeconds (find "expires_in") answer.expiresIn
  scope : Record.Tells .text (find "scope") answer.scope
  refreshToken : Record.Tells .text (find "refresh_token") answer.refreshToken
  pct : Record.Tells .text (find "pct") answer.pct
  upgraded : Record.Tells .bool (find "upgraded") answer.upgraded

theorem isToldBy_of_build {find : String → Option Node} (h : record.build find = .ok answer) :
    answer.IsToldBy find := by
  rcases Record.exists_of_build_seq h with ⟨_, _, h₆, hupgraded, rfl⟩
  rcases Record.exists_of_build_seq h₆ with ⟨_, _, h₅, hpct, rfl⟩
  rcases Record.exists_of_build_seq h₅ with ⟨_, _, h₄, hrefreshToken, rfl⟩
  rcases Record.exists_of_build_seq h₄ with ⟨_, _, h₃, hscope, rfl⟩
  rcases Record.exists_of_build_seq h₃ with ⟨_, _, h₂, hexpiresIn, rfl⟩
  rcases Record.exists_of_build_seq h₂ with ⟨_, _, h₁, htokenType, rfl⟩
  rcases Record.exists_of_build_map h₁ with ⟨_, haccessToken, rfl⟩
  exact {
    accessToken := Record.tells_of_build haccessToken
    tokenType := Record.tells_of_build htokenType
    expiresIn := Record.tells_of_build hexpiresIn
    scope := Record.tells_of_build hscope
    refreshToken := Record.tells_of_build hrefreshToken
    pct := Record.tells_of_build hpct
    upgraded := Record.tells_of_build hupgraded }

/-- An answer that is read in a body is told by the one document that the body spells. -/
theorem exists_isToldBy {body : Bytes} (h : Codec.plain.decode record.decode body = .ok answer) :
    ∃ node, Spells (.padded node) body ∧ answer.IsToldBy (record.found? node) := by
  rcases Record.plain_decode_eq_ok_iff.mp h with ⟨node, hspells, hdecode⟩
  exact ⟨node, hspells, isToldBy_of_build (Record.build_of_decode hdecode)⟩

/-! ### What is in order -/

/-- The answer can be made into a token. -/
structure IsAcceptable (answer : TokenAnswer) (now : Instant) (delimiter : Char) : Prop where
  accessToken : ∃ text, answer.accessToken = some text ∧ text ≠ ""
  tokenType : ∃ text, answer.tokenType = some text ∧ text ≠ ""
  /-- The lifetime is not negative, and ends in range. -/
  expiresIn : ∀ seconds, answer.expiresIn = some seconds →
    0 ≤ seconds ∧ now.nanos + seconds * 1000000000 ≤ Instant.last
  /-- The scopes are more than separators, unless there is nothing at all. -/
  scope : ∀ raw, answer.scope = some raw →
    raw = "" ∨ ∃ c ∈ raw.toList, c ≠ delimiter ∧ isBlank c = false

theorem demand_eq_ok_iff {text : Option String} {fault : TokenFault} {content : String} :
    demand text fault = .ok content ↔ text = some content ∧ content ≠ "" := by
  cases text with
  | none => simp [demand]
  | some found =>
    rw [demand]
    by_cases hempty : found = ""
    · rw [if_pos hempty]
      constructor
      · intro h
        cases h
      · rintro ⟨heq, hne⟩
        exact absurd (Option.some.inj heq ▸ hempty) hne
    · rw [if_neg hempty, Except.ok.injEq, Option.some.injEq]
      exact ⟨fun heq => ⟨heq, heq ▸ hempty⟩, fun h => h.1⟩

/-- A lifetime that is not negative cannot end before the first instant. -/
theorem isSome_add?_seconds_iff {seconds : Int} (h : 0 ≤ seconds) :
    (now.add? (.seconds seconds)).isSome = true ↔
      now.nanos + seconds * 1000000000 ≤ Instant.last := by
  have hfirst := now.first_le
  rw [Instant.add?_isSome_iff]
  simp only [Duration.seconds]
  omega

theorem lifetime_eq_ok_iff {expiresIn : Option Int} {lasting : Option Duration} :
    lifetime now expiresIn = .ok lasting ↔
      lasting = expiresIn.map Duration.seconds ∧ ∀ seconds, expiresIn = some seconds →
        0 ≤ seconds ∧ now.nanos + seconds * 1000000000 ≤ Instant.last := by
  cases expiresIn with
  | none => simp [lifetime, eq_comm]
  | some seconds =>
    rw [lifetime]
    by_cases hnegative : seconds < 0
    · simp [hnegative]
    · have hsum : (now.add? (.seconds seconds)).isSome = true ↔ _ :=
        isSome_add?_seconds_iff (Int.not_lt.mp hnegative)
      by_cases hrange : (now.add? (.seconds seconds)).isSome = true
      · have hnone : (now.add? (.seconds seconds)).isNone = false := by simpa using hrange
        simp [hnegative, hnone, hsum.mp hrange, Int.not_lt.mp hnegative, eq_comm]
      · have hnone : (now.add? (.seconds seconds)).isNone = true := by simpa using hrange
        simp [hnegative, hnone, mt hsum.mpr hrange]

/-- An answer is a token if its token, its type, its lifetime and its scopes are in order. -/
theorem token_eq_ok_iff {answer : TokenAnswer} {now : Instant} {delimiter : Char}
    {token : Token} :
    answer.token now delimiter = .ok token ↔
      ∃ accessToken tokenType expiresIn scope,
        demand answer.accessToken .noAccessToken = .ok accessToken ∧
        demand answer.tokenType .noTokenType = .ok tokenType ∧
        lifetime now answer.expiresIn = .ok expiresIn ∧
        grantedScope delimiter answer.scope = .ok scope ∧
        token = {
          accessToken := ⟨accessToken⟩
          tokenType
          expiresIn
          scope
          refreshToken := answer.refreshToken.map Secret.mk
          pct := answer.pct.map Secret.mk
          upgraded := answer.upgraded.getD false
          issuedAt := now } := by
  rw [TokenAnswer.token]
  cases demand answer.accessToken .noAccessToken with
  | error fault => simp [Bind.bind, Except.bind]
  | ok accessToken =>
    cases demand answer.tokenType .noTokenType with
    | error fault => simp [Bind.bind, Except.bind]
    | ok tokenType =>
      cases lifetime now answer.expiresIn with
      | error fault => simp [Bind.bind, Except.bind]
      | ok expiresIn =>
        cases grantedScope delimiter answer.scope with
        | error fault => simp [Bind.bind, Except.bind]
        | ok scope => simp [Bind.bind, Except.bind, eq_comm]

theorem grantedScope_eq_ok_iff {raw : String} {delimiter : Char} {s : ScopeSet} :
    grantedScope delimiter (some raw) = .ok (some s) ↔
      ScopeSet.ofDelimited raw delimiter = .ok s := by
  rw [grantedScope]
  cases ScopeSet.ofDelimited raw delimiter <;> simp [Except.map, Except.mapError]

theorem exists_grantedScope_iff {scope : Option String} :
    (∃ granted, grantedScope delimiter scope = .ok granted) ↔
      ∀ raw, scope = some raw → raw = "" ∨ ∃ c ∈ raw.toList, c ≠ delimiter ∧ isBlank c = false := by
  cases scope with
  | none => simp [grantedScope]
  | some raw =>
    have hgranted : (∃ granted, grantedScope delimiter (some raw) = .ok granted) ↔
        ∃ s, ScopeSet.ofDelimited raw delimiter = .ok s := by
      rw [grantedScope]
      cases ScopeSet.ofDelimited raw delimiter <;> simp [Except.map, Except.mapError]
    rw [hgranted, ScopeSet.exists_ofDelimited_iff]
    simp

theorem exists_token_iff_isAcceptable :
    (∃ token, answer.token now delimiter = .ok token) ↔ answer.IsAcceptable now delimiter := by
  constructor
  · rintro ⟨token, htoken⟩
    rcases token_eq_ok_iff.mp htoken with ⟨_, _, _, _, haccess, htype, hlifetime, hscope, -⟩
    exact ⟨⟨_, demand_eq_ok_iff.mp haccess⟩, ⟨_, demand_eq_ok_iff.mp htype⟩,
      (lifetime_eq_ok_iff.mp hlifetime).2, exists_grantedScope_iff.mp ⟨_, hscope⟩⟩
  · intro h
    rcases h.accessToken with ⟨_, haccess⟩
    rcases h.tokenType with ⟨_, htype⟩
    rcases exists_grantedScope_iff.mpr h.scope with ⟨_, hscope⟩
    exact ⟨_, token_eq_ok_iff.mpr ⟨_, _, _, _, demand_eq_ok_iff.mpr haccess,
      demand_eq_ok_iff.mpr htype, lifetime_eq_ok_iff.mpr ⟨rfl, h.expiresIn⟩, hscope, rfl⟩⟩

end TokenAnswer

/-! ### Expiry -/

/-- A token expires, if it tells a lifetime, and only then, so many seconds after its answer. -/
structure Token.KeepsTime (token : Token) (now : Instant) (lasting : Option Int) : Prop where
  issuedAt : token.issuedAt = now
  expiresIn : token.expiresIn = lasting.map Duration.seconds
  isSome_iff : token.expiresAt.isSome = true ↔ token.expiresIn.isSome = true
  nanos_eq : ∀ seconds expiry, lasting = some seconds → token.expiresAt = some expiry →
    expiry.nanos = now.nanos + seconds * 1000000000
  le_expiry : ∀ expiry, token.expiresAt = some expiry → now.nanos ≤ expiry.nanos

/-- The sum that was in range when the lifetime was looked at is in range later. -/
theorem TokenAnswer.keepsTime_of_token {answer : TokenAnswer} {now : Instant} {delimiter : Char}
    {token : Token} (h : answer.token now delimiter = .ok token) :
    token.KeepsTime now answer.expiresIn := by
  rcases token_eq_ok_iff.mp h with ⟨_, _, lasting, _, -, -, hlifetime, -, rfl⟩
  rcases lifetime_eq_ok_iff.mp hlifetime with ⟨rfl, hrange⟩
  cases hexpires : answer.expiresIn with
  | none =>
    refine ⟨rfl, rfl, by simp [Token.expiresAt], ?_, ?_⟩
    · intro seconds expiry hnone
      cases hnone
    · intro expiry hexpiry
      cases hexpiry
  | some seconds =>
    rcases hrange seconds hexpires with ⟨hpos, hle⟩
    rcases Option.isSome_iff_exists.mp ((isSome_add?_seconds_iff hpos).mpr hle) with ⟨expiry, hsum⟩
    have hnanos : expiry.nanos = now.nanos + seconds * 1000000000 := Instant.nanos_of_add? hsum
    have hexpiry {other : Instant} (hother : now.add? (.seconds seconds) = some other) :
        other = expiry := Option.some.inj (hother.symm.trans hsum)
    refine ⟨rfl, rfl, by simp [Token.expiresAt, hsum], ?_, ?_⟩
    · intro told other htold hother
      cases htold
      rw [hexpiry hother, hnanos]
    · intro other hother
      rw [hexpiry hother]
      omega

/-! ### Answers -/

section Answers
variable {c : Client} {response : Response} {now : Instant} {answer : TokenAnswer}

theorem Client.tokenIn_eq_ok_iff {token : Token} :
    c.tokenIn response now = .ok token ↔
      ∃ answer, c.codec.decode TokenAnswer.record.decode response.body = .ok answer ∧
        answer.token now c.config.scopeDelimiter = .ok token := by
  rw [tokenIn_eq]
  cases c.codec.decode TokenAnswer.record.decode response.body with
  | error fault => simp
  | ok answer =>
    have hmap : (answer.token now c.config.scopeDelimiter).mapError
        (ExchangeFailure.invalidToken · (some response.status)) = .ok token ↔
          answer.token now c.config.scopeDelimiter = .ok token := by
      cases answer.token now c.config.scopeDelimiter <;> simp [Except.mapError]
    simpa using hmap

theorem Client.tokenIn_of_unreadable {fault : Json.Fault}
    (h : c.codec.decode TokenAnswer.record.decode response.body = .error fault) :
    c.tokenIn response now = .error (.unreadableToken fault (some response.status)) := by
  rw [tokenIn_eq, h]

/-- What can be read and is not in order is no token. -/
theorem Client.exists_tokenIn_of_not_isAcceptable
    (hread : c.codec.decode TokenAnswer.record.decode response.body = .ok answer)
    (h : ¬ answer.IsAcceptable now c.config.scopeDelimiter) :
    ∃ fault, c.tokenIn response now = .error (.invalidToken fault (some response.status)) := by
  rw [tokenIn_eq, hread]
  cases htoken : answer.token now c.config.scopeDelimiter with
  | ok token => exact absurd (TokenAnswer.exists_token_iff_isAcceptable.mp ⟨token, htoken⟩) h
  | error fault =>
    refine ⟨fault, ?_⟩
    simp only [htoken]
    rfl

end Answers

/-- An answer makes a token exactly if it can be read and is in order. If it cannot be read, that is
the failure; if it is not in order, it is no token; and both tell the status. A token expires as its
answer said, which for plain documents is what their members say. -/
theorem tokens_of_answers (c : Client) (response : Response) (now : Instant) :
    ((∃ token, c.tokenIn response now = .ok token) ↔
      ∃ answer, c.codec.decode TokenAnswer.record.decode response.body = .ok answer ∧
        answer.IsAcceptable now c.config.scopeDelimiter) ∧
    (∀ fault, c.codec.decode TokenAnswer.record.decode response.body = .error fault →
      c.tokenIn response now = .error (.unreadableToken fault (some response.status))) ∧
    (∀ answer, c.codec.decode TokenAnswer.record.decode response.body = .ok answer →
      ¬ answer.IsAcceptable now c.config.scopeDelimiter →
      ∃ fault, c.tokenIn response now = .error (.invalidToken fault (some response.status))) ∧
    (∀ token, c.tokenIn response now = .ok token →
      ∃ answer, c.codec.decode TokenAnswer.record.decode response.body = .ok answer ∧
        token.KeepsTime now answer.expiresIn) ∧
    (c.codec = .plain →
      ∀ answer, c.codec.decode TokenAnswer.record.decode response.body = .ok answer →
      ∃ node, Spells (.padded node) response.body ∧
        answer.IsToldBy (TokenAnswer.record.found? node)) := by
  refine ⟨?_, ?_, ?_, ?_, ?_⟩
  · simp only [Client.tokenIn_eq_ok_iff, ← TokenAnswer.exists_token_iff_isAcceptable]
    constructor
    · rintro ⟨token, answer, hread, htoken⟩
      exact ⟨answer, hread, token, htoken⟩
    · rintro ⟨answer, hread, token, htoken⟩
      exact ⟨token, answer, hread, htoken⟩
  · intro fault hread
    exact Client.tokenIn_of_unreadable hread
  · intro answer hread hnot
    exact Client.exists_tokenIn_of_not_isAcceptable hread hnot
  · intro token htoken
    rcases Client.tokenIn_eq_ok_iff.mp htoken with ⟨answer, hread, hanswer⟩
    exact ⟨answer, hread, TokenAnswer.keepsTime_of_token hanswer⟩
  · intro hplain answer hread
    rw [hplain] at hread
    exact TokenAnswer.exists_isToldBy hread

/-- At the start of 1970, a token that lasts to the last second of the year 9999 and has `null` for
its scopes, and one that would last a second longer. -/
theorem tokens_of_sample_answers :
    let answer (seconds : String) : Response := ⟨⟨200⟩, [], Utf8.encode
      ("\x7b\"access_token\":\"rpt\",\"token_type\":\"Bearer\",\"scope\":null,\"expires_in\":" ++
        seconds ++ "\x7d")⟩
    (∃ token expiry, Client.tokenIn {} (answer "253402300799") .epoch = .ok token ∧
      token.expiresAt = some expiry ∧ expiry.nanos = 253402300799 * 1000000000) ∧
    ∃ fault, Client.tokenIn {} (answer "253402300800") .epoch =
      .error (.invalidToken fault (some ⟨200⟩)) := by
  intro answer
  constructor
  · rcases tokens_of_answers {} (answer "253402300799") .epoch with ⟨hmade, -, -, hkept, -⟩
    have hread : Codec.plain.decode TokenAnswer.record.decode (answer "253402300799").body =
        .ok ⟨some "rpt", some "Bearer", some 253402300799, none, none, none, none⟩ := by
      decide +kernel
    have hacceptable : TokenAnswer.IsAcceptable
        ⟨some "rpt", some "Bearer", some 253402300799, none, none, none, none⟩ .epoch ' ' :=
      ⟨⟨_, rfl, by decide⟩, ⟨_, rfl, by decide⟩, by simp; decide, by simp⟩
    rcases hmade.mpr ⟨_, hread, hacceptable⟩ with ⟨token, htoken⟩
    rcases hkept token htoken with ⟨other, hother, htime⟩
    cases hread.symm.trans hother
    have hsome : token.expiresAt.isSome = true := by
      rw [htime.isSome_iff, htime.expiresIn]
      rfl
    rcases Option.isSome_iff_exists.mp hsome with ⟨expiry, hexpiry⟩
    exact ⟨token, expiry, htoken, hexpiry, htime.nanos_eq _ expiry rfl hexpiry⟩
  · have hread : Codec.plain.decode TokenAnswer.record.decode (answer "253402300800").body =
        .ok ⟨some "rpt", some "Bearer", some 253402300800, none, none, none, none⟩ := by
      decide +kernel
    refine (tokens_of_answers {} (answer "253402300800") .epoch).2.2.1 _ hread fun h => ?_
    exact absurd (h.expiresIn _ rfl).2 (by decide)

end TicketGrant
