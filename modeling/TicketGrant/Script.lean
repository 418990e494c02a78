import TicketGrant.Crypto.Sha256
import TicketGrant.Dialogue

/-!
# Scripted environments

An environment that is known beforehand: what the transport does with each request and what the
resolver answers to each demand stand in two queues. The clock stands still, and the bytes that are
drawn count up, so no two draws are the same.
-/
namespace TicketGrant

open Http

/-- What an environment will answer. -/
structure Script where
  deliveries : List Delivery
  resolutions : List Resolution
  clock : Instant
  /-- How often bytes were drawn. -/
  drawn : Nat := 0

namespace Script

/-- What is left of a queue behind its first element, and that element. -/
def pop {α : Type} (default : α) : List α → α × List α
  | [] => (default, [])
  | a :: rest => (a, rest)

/-- What the transport does with a request for which the script has nothing. -/
def exhaustedDelivery : Delivery := ⟨[], .error (.other "script ran out")⟩

/-- What the resolver answers to a demand for which the script has nothing. -/
def exhaustedResolution : Resolution := .abort { reason := "resolver ran out" }

/-- The 16 bytes of a draw. -/
def drawBytes (n : Nat) : Bytes := Sha256.bigEndian 16 n

/-- The environment that follows its script. -/
def environment : Dialogue.Environment Script where
  send _ s :=
    let (delivery, rest) := pop exhaustedDelivery s.deliveries
    (delivery, { s with deliveries := rest })
  explain _ fault s := (.ofFault fault, s)
  resolve _ s :=
    let (resolution, rest) := pop exhaustedResolution s.resolutions
    (resolution, { s with resolutions := rest })
  now s := (s.clock, s)
  draw s := (drawBytes s.drawn, { s with drawn := s.drawn + 1 })

end Script
end TicketGrant
