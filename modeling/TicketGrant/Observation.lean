import TicketGrant.Failure

/-!
# Observations

What a client lets others see while it works: a span around each flow, events with named values,
and counters. Values of requests are not among them.
-/
namespace TicketGrant

/-- What a client does. -/
inductive FlowKind where
  | discovery
  | negotiation
deriving DecidableEq

/-- A flow's name in observations. -/
def FlowKind.label : FlowKind → String
  | .discovery => "discovery"
  | .negotiation => "negotiation"

/-- How far a flow has come. -/
inductive FlowOutcome where
  | attempt
  | success
  | failure
deriving DecidableEq

/-- An outcome's name in observations. -/
def FlowOutcome.label : FlowOutcome → String
  | .attempt => "attempt"
  | .success => "success"
  | .failure => "failure"

/-- How much an observation matters. -/
inductive Level where
  | info
  | debug
deriving DecidableEq

/-- A level's name. -/
def Level.name : Level → String
  | .info => "INFO"
  | .debug => "DEBUG"

/-- The value of a field of an event. -/
inductive FieldValue where
  | text (content : String)
  | number (value : Nat)
deriving DecidableEq

/-- One thing that can be seen. -/
inductive Observation where
  /-- A flow has begun, at one of a client's entries. -/
  | span (kind : FlowKind) (stage : String)
  /-- A flow was counted. -/
  | flow (kind : FlowKind) (outcome : FlowOutcome)
  /-- A demand for claims goes to the resolver. -/
  | challenge (remaining claims : Nat)
  /-- A demand for claims was counted. -/
  | round
  /-- A request goes out again, with the server's nonce. -/
  | resend (algorithm : String)
  /-- A resent request was counted. -/
  | nonceRetry (algorithm : String)
  /-- A flow has failed. -/
  | failed (kind : FlowKind) (failure : Failure)
deriving DecidableEq

/-- An observation as it is recorded. -/
inductive Recorded where
  | span (name : String) (level : Level) (fields : List (String × FieldValue))
  | event (level : Level) (fields : List (String × FieldValue))
  | counter (name : String) (labels : List (String × String)) (amount : Nat)
deriving DecidableEq

namespace Observation

/-- How an observation is recorded. -/
def recorded : Observation → Recorded
  | .span kind stage =>
    .span "uma_negotiator.flow" .info [("flow", .text kind.label), ("stage", .text stage)]
  | .flow kind outcome =>
    .counter "uma_negotiator_flow_total" [("flow", kind.label), ("outcome", outcome.label)] 1
  | .challenge remaining claims =>
    .event .debug [("message", .text "resolving need_info challenge"),
      ("remaining_depth", .number remaining), ("required_claims", .number claims)]
  | .round => .counter "uma_negotiator_need_info_rounds_total" [] 1
  | .resend algorithm =>
    .event .debug [("message", .text "resending token request with DPoP nonce"),
      ("algorithm", .text algorithm)]
  | .nonceRetry algorithm =>
    .counter "uma_negotiator_dpop_nonce_retries_total" [("algorithm", algorithm)] 1
  | .failed kind failure =>
    .event .debug ([("message", .text "flow failed"), ("flow", .text kind.label)] ++
      (failure.status.toList.map fun status => ("status", .number status.code)) ++
      [("error", .text failure.message)])

end Observation
end TicketGrant
