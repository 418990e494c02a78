import TicketGrant.Http.Status
import TicketGrant.Time

/-!
# Slots

What is known of an answer as soon as its head has arrived is put into a slot, so that it is there
even if the rest of the answer never comes. A slot holds what was stored last; taking empties it.
-/
namespace TicketGrant.Http

/-- What the head of an answer tells. -/
structure AnswerHead where
  status : Option Status
  retryAfter : Option Duration
deriving DecidableEq

/-- A place for the head of one answer. -/
structure Slot where
  held : Option AnswerHead := none
deriving DecidableEq

namespace Slot

/-- Puts a head into the slot; one that is there already is lost. -/
def store (_ : Slot) (head : AnswerHead) : Slot := ⟨some head⟩

/-- What the slot holds, and the empty slot. -/
def take (slot : Slot) : Option AnswerHead × Slot := (slot.held, ⟨none⟩)

/-- One use of a slot. -/
inductive Action where
  | store (head : AnswerHead)
  | take
deriving DecidableEq

/-- The slot after one use. -/
def after (slot : Slot) : Action → Slot
  | .store head => slot.store head
  | .take => slot.take.2

/-- The slot after several uses. -/
def afterAll (slot : Slot) (actions : List Action) : Slot := actions.foldl after slot

@[simp] theorem afterAll_append (slot : Slot) (xs ys : List Action) :
    slot.afterAll (xs ++ ys) = (slot.afterAll xs).afterAll ys := List.foldl_append

end Slot
end TicketGrant.Http
