import TicketGrant.Proofs.RefusalBodies
import TicketGrant.Proofs.RoundTrace
import TicketGrant.Script

/-!
# Bodies that demand claims

The body of a demand is read twice, once as a refusal with its code, and once as a demand with its
ticket. Both records are also read from lists, and the element that is the code for one is the ticket
for the other. No list is both: a refusal is a list of two elements, the second a text or `null`, and
there a demand has the list of its claims. So a demand is one object with one code and one ticket
(`isDemandBody_of_needInfo`).
-/
namespace TicketGrant

open Json Record Http Dialogue Trace

/-- The body spells one object with these members, and nothing else. One member is named `error`, and
says that claims are demanded; one is named `ticket`, and brings a ticket. -/
structure IsDemandBody (body : Bytes) (ticket : String) (members : List (Option String × Node)) :
    Prop where
  spells_iff : ∀ node, Spells (.padded node) body ↔ node = .object members .closed
  named_error : named members "error" = [(some "error", .text (some "need_info"))]
  named_ticket : named members "ticket" = [(some "ticket", .text (some ticket))]
  ticket_ne : ticket ≠ ""

/-! ### What a demand was built from -/

variable {find : String → Option Node} {body : Bytes}

/-- A text that was found was found under the name of its field. -/
theorem Json.Record.find_of_build {name content : String} {elidable : Bool}
    (h : (field name Decoder.text.nullable (some none) elidable).build find = .ok (some content)) :
    find name = some (.text (some content)) := by
  rcases exists_of_build_field h (by simp) with ⟨node, hfind, hnode⟩
  rw [hfind, nullable_text_eq_ok_iff.mp hnode, ofText]

theorem ChallengeAnswer.find_of_build {answer : ChallengeAnswer} {ticket : String}
    (h : ChallengeAnswer.record.build find = .ok answer) (hticket : answer.ticket = some ticket) :
    find "ticket" = some (.text (some ticket)) := by
  rcases exists_of_build_seq h with ⟨_, _, hclaims, -, rfl⟩
  rcases exists_of_build_seq hclaims with ⟨_, _, hfirst, -, rfl⟩
  rcases exists_of_build_map hfirst with ⟨_, hfield, rfl⟩
  cases hticket
  exact Record.find_of_build hfield

/-! ### No list is a refusal and a demand -/

/-- As a refusal the list has a description in its second place, and as a demand it has claims there. -/
theorem ChallengeAnswer.not_of_texts {code description : Option String} {answer : ChallengeAnswer}
    (h : ChallengeAnswer.record.decode (.list [ofText code, ofText description] .closed) =
      .ok answer) : False := by
  rcases checkItems_eq_ok_iff.mp (checkItems_of_decode h) with ⟨-, -, hpass⟩
  have hclaims : (Decoder.list RequiredClaim.decode (ofText description)).map (fun _ => ()) = .ok () :=
    hpass (_, ofText description) (List.mem_cons_of_mem _ (List.mem_cons_self ..))
  cases description <;> cases hclaims

/-! ### One body -/

theorem Challenge.exists_of_ofBody? {codec : Codec} {status : Option Status} {challenge : Challenge}
    (h : Challenge.ofBody? codec body status = some challenge) :
    ∃ answer, codec.decode ChallengeAnswer.record.decode body = .ok answer ∧
      answer.ticket = some challenge.ticket := by
  simp only [Challenge.ofBody?, Option.bind_eq_bind, Option.bind_eq_some_iff] at h
  rcases h with ⟨answer, hanswer, ticket, hticket, h⟩
  split at h
  · cases h
  · cases h
    cases hdecode : codec.decode ChallengeAnswer.record.decode body with
    | error fault => simp [hdecode, Except.toOption] at hanswer
    | ok found =>
      obtain rfl : found = answer := by simpa [hdecode, Except.toOption] using hanswer
      exact ⟨found, rfl, hticket⟩

/-- A body with the code of a demand and with a new ticket is one object. -/
theorem exists_isDemandBody {status : Option Status} {challenge : Challenge}
    (hcode : (Refusal.ofBody .plain body).code = "need_info")
    (hbody : Challenge.ofBody? .plain body status = some challenge) :
    ∃ members, IsDemandBody body challenge.ticket members := by
  rcases Refusal.exists_isToldBy_of_code hcode (by decide) with ⟨node, description, hspells, htold⟩
  rcases Challenge.exists_of_ofBody? hbody with ⟨answer, hanswer, hticket⟩
  rcases plain_decode_eq_ok_iff.mp hanswer with ⟨other, hspells', hanswer⟩
  obtain rfl := hspells.eq_of_padded hspells'
  cases htold with
  | list => exact (ChallengeAnswer.not_of_texts hanswer).elim
  | object htells _ =>
    rcases decode_object_eq_ok_iff.mp hanswer with ⟨haccepts, hanswer⟩
    exact ⟨_, fun node => ⟨fun h => h.eq_of_padded hspells, fun h => h ▸ hspells⟩,
      (htells.eq_some_iff _).mp rfl,
      haccepts.named_eq (by decide) (ChallengeAnswer.find_of_build hanswer hticket),
      (Challenge.of_ofBody? hbody).2⟩

/-! ### Runs -/

/-- A body that is a demand by its code and brings a ticket is one object, with one code and one ticket.
And whatever happens to a client that reads plain documents, the resolver is called for such bodies
only. -/
theorem isDemandBody_of_needInfo :
    (∀ (body : Bytes) (status : Option Status) (challenge : Challenge),
      (Refusal.ofBody .plain body).kind = .needInfo →
      Challenge.ofBody? .plain body status = some challenge →
      ∃ members, IsDemandBody body challenge.ticket members) ∧
    ∀ {σ : Type} (env : Environment σ) (c : Client) (request : TokenRequest) (s : σ) (entry : Entry),
      c.codec = .plain → ∀ round ∈ rounds (entry.play env c request s).trace,
      ∀ challenge resolution, (challenge, resolution) ∈ resolutions round →
      ∃ response members, lastResponse? round = some response ∧
        IsDemandBody response.body challenge.ticket members := by
  constructor
  · intro body status challenge hkind hbody
    refine exists_isDemandBody ?_ hbody
    rw [← RefusalKind.code_ofCode (Refusal.ofBody .plain body).code]
    exact congrArg RefusalKind.code hkind
  · intro σ env c request s entry hplain round hmem challenge resolution hcall
    rcases List.mem_iff_getElem?.mp hmem with ⟨n, hround⟩
    rcases entry.round_of_play env c request s hround with
      ⟨-, rfl, -⟩ | ⟨current, inner, ending, -, hinner, rfl, -⟩
    · simp [resolutions] at hcall
    rw [resolutions_heard] at hcall
    rcases hinner.calls with ⟨hnone, -⟩ | ⟨response, _, _, hlast, hone, -, hdemands, -⟩
    · simp [hnone] at hcall
    · rw [hone] at hcall
      cases List.mem_singleton.mp hcall
      have hcode := hdemands.code
      have hbody := hdemands.challenge
      rw [Client.codeIn, hplain] at hcode
      rw [hplain] at hbody
      rcases exists_isDemandBody hcode hbody with ⟨members, hmembers⟩
      exact ⟨response, members, by rwa [lastResponse?_heard], hmembers⟩

/-- A body with its ticket in front, a member between, and an escape in a name; and a demand that is met
in a run. -/
theorem isDemandBody_of_sample_run :
    (∃ members, IsDemandBody
      (Utf8.encode "\x7b\"ticket\":\"second\",\"x\":[[]],\"err\\u006fr\":\"need_info\"\x7d")
      "second" members) ∧
    let p := (Entry.negotiate Sample.endpoint 1).play Script.environment {} { ticket := "first" }
      (Sample.script [Sample.demand "second", Sample.grant])
    ∃ round ∈ rounds p.trace, ∃ response members, lastResponse? round = some response ∧
      IsDemandBody response.body "second" members := by
  constructor
  · exact isDemandBody_of_needInfo.1 _ none ⟨"second", [], none, none⟩ (by decide +kernel)
      (by decide +kernel)
  · intro p
    have hcalls : ((rounds p.trace).any fun round =>
        (resolutions round).any (·.1.ticket == "second")) = true := by
      decide +kernel
    rcases List.any_eq_true.mp hcalls with ⟨round, hmem, hcall⟩
    rcases List.any_eq_true.mp hcall with ⟨⟨challenge, resolution⟩, hresolution, hticket⟩
    have hbody := isDemandBody_of_needInfo.2 _ _ _ _ _ rfl round hmem challenge resolution hresolution
    rw [beq_iff_eq.mp hticket] at hbody
    exact ⟨round, hmem, hbody⟩

end TicketGrant
