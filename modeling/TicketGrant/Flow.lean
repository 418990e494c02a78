import TicketGrant.Dialogue

/-!
# Flows

A flow is a dialogue that may fail. What a client does is a flow, written with one step for each
wish. From outside a flow is seen as a span, an attempt, and in the end a success, or the failure
and its count.
-/
namespace TicketGrant

open Http

/-- A dialogue that may fail. -/
abbrev Flow (α : Type) := ExceptT Failure Dialogue α

namespace Flow

/-- Lets something be seen. -/
def observe (entry : Observation) : Flow Unit := ExceptT.lift (.observe entry (.done ()))

/-- Asks for claims. -/
def resolve (challenge : Challenge) : Flow Resolution := ExceptT.lift (.resolve challenge .done)

/-- Asks for the time. -/
def now : Flow Instant := ExceptT.lift (.now .done)

/-- Asks for 16 bytes by chance. -/
def draw : Flow Bytes := ExceptT.lift (.draw .done)

/-- Sends a request. Of a fault is told what it is explained as, together with the head of the
answer that the slot holds in the end. -/
def send (request : Request) :
    Dialogue (Except (TransportFailure × Option AnswerHead) Response) :=
  .send request fun delivery =>
    match delivery.outcome with
    | .ok response => .done (.ok response)
    | .error fault =>
      let head := (({} : Slot).afterAll delivery.actions).take.1
      .explain head fault fun failure => .done (.error (failure, head))

/-- Goes on with a result, or fails. -/
def ofExcept {ε α : Type} (failure : ε → Failure) (result : Except ε α) : Flow α :=
  ExceptT.mk (.done (result.mapError failure))

/-- A flow with its observations. -/
def observed {α : Type} (kind : FlowKind) (stage : String) (flow : Flow α) : Flow α := do
  observe (.span kind stage)
  observe (.flow kind .attempt)
  match ← ExceptT.lift flow.run with
  | .ok result => do
    observe (.flow kind .success)
    pure result
  | .error failure => do
    observe (.failed kind failure)
    observe (.flow kind .failure)
    throw failure

end Flow
end TicketGrant
