import TicketGrant.Proofs.RefusalBodies
import TicketGrant.Proofs.Session

/-!
# Statuses that were not expected

A negotiation that ends with an answer that is neither a success nor an error of the client tells its
status, and the description that a refusal in its body has (`description_of_unexpectedStatus`). That is
the server's own description where the body has a code. Without a code it is dropped, and where the
body cannot be read it is the client's own text (`description_of_gateway`).
-/
namespace TicketGrant

open Json Record Http Dialogue Trace

/-! ### Descriptions of bodies -/

/-- What a refusal makes of a description, by what its body is. -/
structure Refusal.DescribedAs (body : Bytes) (description : Option String) : Prop where
  /-- With a code, the description is told as it stands in the body. -/
  ofCode : ∀ node code told, Spells (.padded node) body → IsToldBy node (some code) told →
    description = told
  ofObject : ∀ members code told, Spells (.padded (.object members .closed)) body →
    IsToldBy (.object members .closed) (some code) told → ∀ content, description = some content ↔
      named members "error_description" = [(some "error_description", .text (some content))]
  ofCodeless : ∀ node told, Spells (.padded node) body → IsToldBy node none told → description = none
  /-- A body that is no refusal is described by where reading it stopped. -/
  ofUntold : (∀ node code told, Spells (.padded node) body → ¬ IsToldBy node code told) →
    ∃ fault, description = some (diagnosis fault)

theorem Refusal.describedAs_ofBody (body : Bytes) :
    DescribedAs body (ofBody .plain body).description where
  ofCode node code told hspells htold := by rw [ofBody_of_code hspells htold]
  ofObject members code told hspells htold content := by
    rw [ofBody_of_code hspells htold]
    cases htold with
    | object _ hdescribes => exact hdescribes.description.eq_some_iff content
  ofCodeless node told hspells htold := by rw [ofBody_of_codeless hspells htold]
  ofUntold huntold := by
    obtain ⟨fault, hfault⟩ := exists_ofBody_of_untold huntold
    exact ⟨fault, by rw [hfault]⟩

/-! ### Runs -/

/-- A trace ends with the answer whose status was not expected. -/
structure Client.EndsWith (c : Client) (trace : List Turn) (response : Response) (status : Status)
    (description : Option String) : Prop where
  lastResponse?_eq : lastResponse? trace = some response
  status_eq : response.status = status
  isSuccess : status.isSuccess = false
  isClientError : status.isClientError = false
  description_eq : description = c.descriptionIn response

/-- If it fails for a status, a run ends with an answer that has it. -/
def Client.Blames (c : Client) (failed : Option Failure) (trace : List Turn) : Prop :=
  ∀ status description, failed = some (.exchange (.unexpectedStatus status description)) →
    ∃ response, c.EndsWith trace response status description

section Runs
variable {c : Client} {endpoint : Url} {choice : Option Binding.Choice} {budget remaining : Nat}
  {request : TokenRequest} {turns : List Turn} {status : Status} {description : Option String}

/-- The last answer of a trace is the last one with turns before it, too. -/
theorem Trace.lastResponse?_append {xs ys : List Turn} {response : Response}
    (h : lastResponse? ys = some response) : lastResponse? (xs ++ ys) = some response := by
  rw [lastResponse?, Option.bind_eq_some_iff] at h
  obtain ⟨sending, hlast, hanswer⟩ := h
  rw [lastResponse?, sendings_append, List.getLast?_append, hlast]
  exact hanswer

theorem Client.EndsWith.behind {xs ys : List Turn} {response : Response}
    (h : c.EndsWith ys response status description) :
    c.EndsWith (xs ++ ys) response status description :=
  { h with lastResponse?_eq := lastResponse?_append h.lastResponse?_eq }

theorem Round.blames {result : Except Failure Token}
    (h : Round c endpoint choice budget remaining request turns (.ended result)) :
    c.Blames (failure? result) turns := by
  intro status description hfailed
  cases h with
  | unsent hx =>
    -- a request that cannot be sent fails without a status
    obtain ⟨nonce, front, hsends⟩ := hx.exists_sends_of_error
    cases hsends <;> cases hfailed
  | settled hx hsettles =>
    have hlast := Round.lastResponse?_of_settled hx hsettles
    cases hsettles with
    | unexpected hsuccess hclient =>
      cases hfailed
      exact ⟨_, hlast, rfl, hsuccess, hclient, rfl⟩
    | _ => cases hfailed

theorem Course.blames {result : Except Failure Token}
    (h : Course c endpoint choice budget remaining request turns result) :
    c.Blames (failure? result) turns := by
  induction h with
  | last hlast => exact hlast.blames
  | more _ _ ih =>
    intro status description hfailed
    obtain ⟨response, hends⟩ := ih status description hfailed
    exact ⟨response, hends.behind⟩

theorem Discovers.blames {server : Url} {r : Except Failure Metadata}
    (h : Discovers c server turns r) : c.Blames (failure? r) turns := by
  intro status description hfailed
  cases h <;> cases hfailed

variable {σ : Type} (env : Environment σ) (c) (s : σ)

theorem Client.Blames.framed {α : Type} {failed : Option Failure} {kind : FlowKind}
    {stage : String} {result : Except Failure α} (h : c.Blames failed turns) :
    c.Blames failed (framed kind stage turns result) := by
  intro status description hfailed
  obtain ⟨response, hends⟩ := h status description hfailed
  refine ⟨response, { hends with lastResponse?_eq := ?_ }⟩
  rw [← hends.lastResponse?_eq, lastResponse?, sendings_framed, lastResponse?]

theorem Client.blames_discover (server : Url) :
    c.Blames (failure? (c.discover env server s).result) (c.discover env server s).trace := by
  obtain ⟨inner, htrace, hdiscovers⟩ := c.discovers_discover env server s
  rw [htrace]
  exact hdiscovers.blames.framed

theorem Entry.blames_play (request : TokenRequest) (entry : Entry) :
    c.Blames (failure? (entry.play env c request s).result) (entry.play env c request s).trace := by
  obtain ⟨stage, inner, htrace, hinner⟩ := entry.course_of_play env c request s
  rw [htrace]
  rcases hinner with ⟨fault, -, hresult⟩ | hcourse
  · intro status description hfailed
    rw [hresult] at hfailed
    cases hfailed
  · exact hcourse.blames.framed

theorem Call.blames_play (call : Call) :
    c.Blames (failure? (call.play env c s).result) (call.play env c s).trace := by
  refine Call.holds_play (fun server s => c.blames_discover env s server)
    (fun entry request s => entry.blames_play c env s request) ?_ ?_ call s
  · intro _ _ _ _ _ _ hfailed
    cases hfailed
  · intro _ _ _ failed trace _ hblames status description hfailed
    obtain ⟨response, hends⟩ := hblames status description hfailed
    exact ⟨response, hends.behind⟩

end Runs

/-- A call fails for the status of its last answer only if that is neither a success nor an error of the
client, and tells what that answer is described by. For a client that reads plain documents this is the
description in the body if the body has a code, nothing if it has none, and otherwise a text of the
client. -/
theorem description_of_unexpectedStatus {σ : Type} (env : Environment σ) (c : Client) (call : Call)
    (s : σ) {status : Status} {description : Option String}
    (h : (call.play env c s).result =
      .error (.exchange (.unexpectedStatus status description))) :
    ∃ response, c.EndsWith (call.play env c s).trace response status description ∧
      (c.codec = .plain → Refusal.DescribedAs response.body description) := by
  obtain ⟨response, hends⟩ := call.blames_play c env s _ _ (failure?_eq_some_iff.mpr h)
  refine ⟨response, hends, fun hplain => ?_⟩
  rw [hends.description_eq, Client.descriptionIn, hplain]
  exact Refusal.describedAs_ofBody response.body

/-- A gateway that answers for the server, with a page or with a document. -/
def Sample.gateway (body : String) : Delivery := ⟨[], .ok ⟨⟨502⟩, [], Utf8.encode body⟩⟩

/-- A negotiation that a gateway answers. -/
def Sample.misdirected (body : String) : Played Script (Except Failure Reply) :=
  (Call.token { ticket := "first" } (.negotiate (.negotiate Sample.endpoint 5))).play
    Script.environment {} (Sample.script [Sample.gateway body])

/-- A code and a description come with the status. -/
theorem description_of_code :
    let p := Sample.misdirected
      "\x7b\"error\":\"bad_gateway\",\"error_description\":\"down\"\x7d"
    ∃ response, lastResponse? p.trace = some response ∧
      Refusal.DescribedAs response.body (some "down") := by
  intro p
  have hresult : p.result = .error (.exchange (.unexpectedStatus ⟨502⟩ (some "down"))) :=
    failure?_eq_some_iff.mp (by decide +kernel)
  obtain ⟨response, hends, hdescribed⟩ := description_of_unexpectedStatus Script.environment {}
    (.token { ticket := "first" } (.negotiate (.negotiate Sample.endpoint 5))) _ hresult
  exact ⟨response, hends.lastResponse?_eq, hdescribed rfl⟩

/-- The gateway sends a page, which is described though it says nothing, and an object without a code,
whose description is lost. -/
theorem description_of_gateway :
    failure? (Sample.misdirected "<html>oops</html>").result =
        some (.exchange (.unexpectedStatus ⟨502⟩
          (some "Unable to parse the error response: Failed to decode JSON at \x60.\x60."))) ∧
      (∀ node, ¬ Spells (.padded node) (Utf8.encode "<html>oops</html>")) ∧
    failure? (Sample.misdirected "\x7b\"error_description\":\"down\"\x7d").result =
        some (.exchange (.unexpectedStatus ⟨502⟩ none)) ∧
      Spells (.padded (.object [(some "error_description", .text (some "down"))] .closed))
        (Utf8.encode "\x7b\"error_description\":\"down\"\x7d") := by
  refine ⟨by decide +kernel, fun node hspells => ?_, by decide +kernel, ?_⟩
  · have hbroken : (read (Utf8.encode "<html>oops</html>")).root.isSound = false := by decide +kernel
    rw [read_of_spells hspells, hspells.isSound] at hbroken
    cases hbroken
  · let written := Value.record [("error_description", .text "down")]
    have hbody : Utf8.encode "\x7b\"error_description\":\"down\"\x7d" =
        Utf8.encode written.render := by decide +kernel
    rw [hbody]
    exact written.spells_render

end TicketGrant
