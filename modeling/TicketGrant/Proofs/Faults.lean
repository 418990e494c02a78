import TicketGrant.Http.Wire
import TicketGrant.Proofs.Nonce
import TicketGrant.Proofs.Session

/-!
# Faults

What a client tells of a request for which no answer came. Each request has a slot of its own, so
the head that comes with the fault is the one that the transport has left there for this request:
the last that it stored, if it did not take it away again (`Slot.leaves_iff`). A fault is explained
once, with this head, and then the run is over; so whatever was said before, in the same run or in
earlier ones, the failure tells of this request alone (`faults_told`).
-/
namespace TicketGrant

open Http Dialogue Trace

/-! ### What a transport leaves in a slot -/

/-- What some uses of a fresh slot leave in it. -/
inductive Http.Slot.Leaves (actions : List Slot.Action) : Option AnswerHead → Prop
  /-- The last head that was stored is still there, for no use came after it. -/
  | stored {before head after} :
      actions = before ++ .store head :: after → (∀ later, .store later ∉ after) → .take ∉ after →
      Leaves actions (some head)
  /-- Every head that was stored, if any, was taken later. -/
  | nothing :
      (∀ before head after, actions = before ++ .store head :: after → .take ∈ after) →
      Leaves actions none

theorem Http.Slot.held_concat_store (front : List Slot.Action) (head : AnswerHead) :
    Flow.held (front ++ [.store head]) = some head := by
  rw [Flow.held, afterAll_append]
  rfl

theorem Http.Slot.held_concat_take (front : List Slot.Action) :
    Flow.held (front ++ [.take]) = none := by
  rw [Flow.held, afterAll_append]
  rfl

theorem Http.Slot.leaves_held (actions : List Slot.Action) :
    Leaves actions (Flow.held actions) := by
  rcases List.eq_nil_or_concat actions with rfl | ⟨front, action, rfl⟩
  · refine .nothing ?_
    intro before head after heq
    cases List.append_ne_nil_of_right_ne_nil before (List.cons_ne_nil _ _) heq.symm
  rw [List.concat_eq_append]
  cases action with
  | store head =>
    rw [held_concat_store]
    exact .stored rfl (fun _ => List.not_mem_nil) List.not_mem_nil
  | take =>
    rw [held_concat_take]
    refine .nothing ?_
    intro before head after heq
    -- the last use is the take, so it stands behind the store
    rcases List.eq_nil_or_concat after with rfl | ⟨rest, last, rfl⟩
    · cases (List.append_inj' heq rfl).2
    · rw [List.concat_eq_append, ← List.cons_append, ← List.append_assoc] at heq
      cases (List.append_inj' heq rfl).2
      simp

theorem Http.Slot.leaves_iff {actions : List Slot.Action} {head : Option AnswerHead} :
    Leaves actions head ↔ Flow.held actions = head := by
  constructor
  · intro h
    cases h with
    | @stored before head after hactions hstores htake =>
      have hafter : after = [] := by
        refine List.eq_nil_iff_forall_not_mem.mpr fun action hmem => ?_
        cases action with
        | store later => exact hstores later hmem
        | take => exact htake hmem
      rw [hactions, hafter, held_concat_store]
    | nothing htaken =>
      rcases List.eq_nil_or_concat actions with rfl | ⟨front, action, rfl⟩
      · rfl
      rw [List.concat_eq_append] at htaken ⊢
      cases action with
      | store head => cases htaken front head [] rfl
      | take => exact held_concat_take front
  · rintro rfl
    exact leaves_held actions

/-! ### Faults in a trace -/

/-- How a fault is told of a request: of a token request with all that the head tells, of a request
for metadata with its status. -/
inductive Failure.TellsOf (head : Option AnswerHead) (told : TransportFailure) :
    Method → Failure → Prop
  | token :
      TellsOf head told .post
        (.exchange (.transport told (head.bind (·.status)) (head.bind (·.retryAfter))))
  | metadata {uri} :
      TellsOf head told .get (.metadataUnavailable uri (head.bind (·.status)) (some told))

/-- Whether a failure tells of a fault. -/
def Failure.isTransport : Failure → Bool
  | .exchange (.transport ..) | .metadataUnavailable _ _ (some _) => true
  | _ => false

namespace Trace

/-- What a fault was explained as, and with which head. -/
def explanation? : Turn → Option (Option AnswerHead × Fault × TransportFailure)
  | .explained head fault told => some (head, fault, told)
  | _ => none

/-- The explanations in a trace. -/
def explanations (trace : List Turn) : List (Option AnswerHead × Fault × TransportFailure) :=
  trace.filterMap explanation?

/-- All requests were answered, and nothing was explained. -/
structure Faultless (turns : List Turn) : Prop where
  answered : ∀ sending ∈ sendings turns, ∃ response, sending.2.outcome = .ok response
  unexplained : explanations turns = []

/-- What a trace with this failure, if any, tells of faults. -/
inductive TellsFault (failed : Option Failure) (trace : List Turn) : Prop
  /-- There was none, and the failure is of another kind. -/
  | answered :
      Faultless trace → (∀ failure, failed = some failure → failure.isTransport = false) →
      TellsFault failed trace
  /-- There was one for the last request, and with what was left in its slot it was explained, once,
  and told. -/
  | unanswered {front sent actions fault head told back failure} :
      trace = front ++ .sent sent ⟨actions, .error fault⟩ :: .explained head fault told :: back →
      Faultless front → sendings back = [] → explanations back = [] → Slot.Leaves actions head →
      failed = some failure → failure.TellsOf head told sent.method →
      TellsFault failed trace

variable {xs ys : List Turn} {failed : Option Failure}

@[simp] theorem explanations_append (xs ys : List Turn) :
    explanations (xs ++ ys) = explanations xs ++ explanations ys :=
  List.filterMap_append

theorem Faultless.of_nil (hsendings : sendings xs = []) (hnone : explanations xs = []) :
    Faultless xs := by
  refine ⟨fun sending hmem => ?_, hnone⟩
  rw [hsendings] at hmem
  cases hmem

theorem Faultless.append (hx : Faultless xs) (hy : Faultless ys) : Faultless (xs ++ ys) := by
  refine ⟨fun sending hmem => ?_, ?_⟩
  · rw [sendings_append, List.mem_append] at hmem
    rcases hmem with hmem | hmem
    · exact hx.answered sending hmem
    · exact hy.answered sending hmem
  · rw [explanations_append, hx.unexplained, hy.unexplained, List.append_nil]

/-- Requests that were answered change nothing. -/
theorem TellsFault.behind (h : TellsFault failed ys) (hx : Faultless xs) :
    TellsFault failed (xs ++ ys) := by
  cases h with
  | answered hy hother => exact .answered (hx.append hy) hother
  | unanswered htrace hfront hsendings hnone hleaves hfailed htells =>
    rw [htrace, ← List.append_assoc]
    exact .unanswered rfl (hx.append hfront) hsendings hnone hleaves hfailed htells

/-- Neither does what is said when no more requests are sent. -/
theorem TellsFault.before (h : TellsFault failed xs) (hsendings : sendings ys = [])
    (hnone : explanations ys = []) : TellsFault failed (xs ++ ys) := by
  cases h with
  | answered hx hother => exact .answered (hx.append (.of_nil hsendings hnone)) hother
  | @unanswered _ _ _ _ _ _ back _ htrace hfront hsendings' hnone' hleaves hfailed htells =>
    have hback : sendings (back ++ ys) = [] := by
      rw [sendings_append, hsendings', hsendings, List.append_nil]
    have hback' : explanations (back ++ ys) = [] := by
      rw [explanations_append, hnone', hnone, List.append_nil]
    rw [htrace, List.append_assoc]
    exact .unanswered rfl hfront hback hback' hleaves hfailed htells

theorem TellsFault.faultless (h : TellsFault none xs) : Faultless xs := by
  cases h with
  | answered hx => exact hx
  | unanswered _ _ _ _ _ hfailed => cases hfailed

theorem TellsFault.framed {α : Type} {kind : FlowKind} {stage : String} {inner : List Turn}
    {result : Except Failure α} (h : TellsFault failed inner) :
    TellsFault failed (Trace.framed kind stage inner result) := by
  refine (h.behind (.of_nil rfl rfl)).before ?_ ?_ <;> cases result <;> rfl

end Trace

/-! ### Faults in a negotiation -/

section Courses
variable {c : Client} {endpoint : Url} {choice : Option Binding.Choice} {request : TokenRequest}
  {nonce : Option String} {turns after : List Turn} {budget remaining : Nat} {ending : Ending}

theorem Sends.explanations_eq_nil {outcome : Except Failure (Request × Delivery)}
    (h : Sends c endpoint choice request nonce turns outcome) : explanations turns = [] := by
  cases h with
  | unsigned => rfl
  | unbuilt hproof | sent hproof => cases hproof <;> rfl

theorem Exchanges.explanations_eq_nil {outcome : Except Failure Delivery}
    (h : Exchanges c endpoint choice request turns outcome) : explanations turns = [] := by
  cases h with
  | unsent hfirst | once hfirst => exact hfirst.explanations_eq_nil
  | again hfirst _ hsecond =>
    rw [explanations_append, hfirst.explanations_eq_nil, List.nil_append]
    exact hsecond.explanations_eq_nil

/-- An exchange that fails before a delivery has no faults. -/
theorem Exchanges.faultless_of_error {failure : Failure}
    (h : Exchanges c endpoint choice request turns (.error failure)) :
    Faultless turns ∧ failure.isTransport = false := by
  have hnone := h.explanations_eq_nil
  obtain ⟨front, _, last, sent, rfl, hanswered, hlast, houtcome⟩ := h.exists_last
  cases sent with
  | ok => cases houtcome
  | error failure =>
    cases houtcome
    refine ⟨⟨?_, hnone⟩, ?_⟩
    · have hturns : sendings (front ++ last) = sendings front := by
        rw [sendings_append, hlast.sendings_eq]
        exact List.append_nil _
      rwa [hturns]
    · cases hlast <;> rfl

/-- In any other exchange the last turn is a token request, with no faults before it. -/
theorem Exchanges.exists_eq_sent {delivery : Delivery}
    (h : Exchanges c endpoint choice request turns (.ok delivery)) :
    ∃ front sent, turns = front ++ [.sent sent delivery] ∧ Faultless front ∧
      sent.method = .post := by
  have hnone := h.explanations_eq_nil
  obtain ⟨front, _, last, sent, rfl, hanswered, hlast, houtcome⟩ := h.exists_last
  cases sent with
  | error => cases houtcome
  | ok sending =>
    cases houtcome
    cases hlast with
    | @sent before proof target delivery hproof htarget =>
      have hbefore : sendings before = [] := by cases hproof <;> rfl
      refine ⟨front ++ before, _, (List.append_assoc ..).symm, ⟨?_, ?_⟩, rfl⟩
      · rw [sendings_append, hbefore, List.append_nil]
        exact hanswered
      · rw [← List.append_assoc, explanations_append] at hnone
        exact (List.append_eq_nil_iff.mp hnone).1

/-- What settles a round tells of the fault, if its request was not answered. -/
theorem Settles.tellsFault {delivery : Delivery} {sent : Request}
    (h : Settles c budget remaining delivery after ending) (hpost : sent.method = .post) :
    TellsFault ending.failure? (.sent sent delivery :: after) := by
  cases h with
  | undelivered =>
    have hfront : Faultless [] := .of_nil rfl rfl
    refine .unanswered (List.nil_append _).symm hfront rfl rfl (Slot.leaves_held _) rfl ?_
    rw [hpost]
    exact .token
  | _ =>
    refine .answered ⟨fun sending hmem => ?_, rfl⟩ ?_
    · cases List.mem_singleton.mp hmem
      exact ⟨_, rfl⟩
    · rintro failure ⟨⟩ <;> rfl

theorem Round.tellsFault (h : Round c endpoint choice budget remaining request turns ending) :
    TellsFault ending.failure? turns := by
  cases h with
  | unsent hx =>
    obtain ⟨hfaultless, hother⟩ := hx.faultless_of_error
    refine .answered hfaultless ?_
    rintro _ ⟨⟩
    exact hother
  | settled hx hsettles =>
    obtain ⟨front, sent, rfl, hfront, hpost⟩ := hx.exists_eq_sent
    rw [List.append_assoc]
    exact (hsettles.tellsFault hpost).behind hfront

/-- A round that is followed by another has answers only, so the last one decides. -/
theorem Course.tellsFault {result : Except Failure Token}
    (h : Course c endpoint choice budget remaining request turns result) :
    TellsFault (failure? result) turns := by
  induction h with
  | last hlast => exact hlast.tellsFault
  | more hmet _ ih => exact ih.behind hmet.tellsFault.faultless

end Courses

/-! ### Faults in a call -/

section Calls
variable {σ : Type} (env : Environment σ) (c : Client) (s : σ)

theorem Discovers.tellsFault {server : Url} {turns : List Turn} {r : Except Failure Metadata}
    (h : Discovers c server turns r) : TellsFault (failure? r) turns := by
  cases h with
  | baseless | unbuilt =>
    refine .answered (.of_nil rfl rfl) ?_
    rintro _ ⟨⟩
    rfl
  | undelivered =>
    have hfront : Faultless [] := .of_nil rfl rfl
    exact .unanswered (List.nil_append _).symm hfront rfl rfl (Slot.leaves_held _) rfl .metadata
  | refused | unreadable | insecure | found =>
    refine .answered ⟨fun sending hmem => ?_, rfl⟩ ?_
    · cases List.mem_singleton.mp hmem
      exact ⟨_, rfl⟩
    · rintro failure ⟨⟩ <;> rfl

theorem Client.tellsFault_discover (server : Url) :
    TellsFault (failure? (c.discover env server s).result) (c.discover env server s).trace := by
  obtain ⟨inner, htrace, hdiscovers⟩ := c.discovers_discover env server s
  rw [htrace]
  exact hdiscovers.tellsFault.framed

theorem Entry.tellsFault_play (request : TokenRequest) (entry : Entry) :
    TellsFault (failure? (entry.play env c request s).result)
      (entry.play env c request s).trace := by
  obtain ⟨stage, inner, htrace, hinner⟩ := entry.course_of_play env c request s
  rw [htrace]
  refine TellsFault.framed ?_
  rcases hinner with ⟨fault, rfl, hfault⟩ | hcourse
  · rw [hfault]
    refine .answered (.of_nil rfl rfl) ?_
    rintro _ ⟨⟩
    rfl
  · exact hcourse.tellsFault

theorem Call.tellsFault_play (call : Call) :
    TellsFault (failure? (call.play env c s).result) (call.play env c s).trace := by
  have hfaultless (server s) {metadata} (h : (c.discover env server s).result = .ok metadata) :
      Faultless (c.discover env server s).trace := by
    have htells := c.tellsFault_discover env s server
    rw [h] at htells
    exact htells.faultless
  refine call.holds_play ?_ ?_ ?_ ?_ s
  · intro server s
    exact c.tellsFault_discover env s server
  · intro entry request s
    exact entry.tellsFault_play env c s request
  · intro server s metadata h
    refine .answered (hfaultless server s h) ?_
    rintro _ ⟨⟩
    rfl
  · intro server s metadata failed trace h htrace
    exact htrace.behind (hfaultless server s h)

end Calls

/-- The head that has come back, if one has. -/
def Http.Wire.Arrival.head? : Arrival → Option ResponseHead
  | .nothing _ => none
  | .answer head _ => some head

/-- Whatever transports and resolvers do, in each of any number of calls a fault belongs to the last
request: it is explained once, together with what the transport has left in the slot of that
request, and so it is told. The transport over a connection leaves the head that has come, also if
the body breaks off, and otherwise nothing, whatever the slot held before. -/
theorem faults_told {σ : Type} (env : Environment σ) (calls : List (Client × Call)) (s : σ) :
    (∀ p ∈ Session.plays env calls s, TellsFault (failure? p.result) p.trace) ∧
      ∀ (arrival : Wire.Arrival) (now : Instant) (slot : Slot),
        (slot.afterAll (arrival.delivery now).actions).held =
          arrival.head?.map fun head =>
            ⟨some head.status, RetryAfter.ofHeaders? head.headers now⟩ := by
  refine ⟨fun p hmem => ?_, fun arrival now slot => ?_⟩
  · obtain ⟨made, -, s', rfl⟩ := Session.exists_of_mem_plays hmem
    exact made.2.tellsFault_play env made.1 s'
  · cases arrival <;> rfl

/-- A head was stored in the slot of the first call, and in that of the second another one was taken
away again: the first failure tells the status, and the second tells none. -/
theorem faults_told_of_two_calls :
    let call : Call := .token { ticket := "first" } (.negotiate (.negotiate Sample.endpoint 5))
    let plays := Session.plays Script.environment [({}, call), ({}, call)]
      (Sample.script [⟨[.store ⟨some ⟨503⟩, none⟩], .error (.other "down")⟩,
        ⟨[.store ⟨some ⟨429⟩, none⟩, .take], .error (.other "down")⟩])
    plays.map (failure? ·.result) =
        [some (.exchange (.transport (.other "down") (some ⟨503⟩) none)),
          some (.exchange (.transport (.other "down") none none))] ∧
      ∀ p ∈ plays, TellsFault (failure? p.result) p.trace := by
  intro call plays
  exact ⟨by decide +kernel, (faults_told Script.environment _ _).1⟩

end TicketGrant
