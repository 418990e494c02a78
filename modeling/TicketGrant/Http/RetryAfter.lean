import TicketGrant.Http.Header
import TicketGrant.Http.MailDate
import TicketGrant.Text.Blank

/-!
# Hints when to come back

The first `Retry-After` field of an answer is a number of seconds or a date. A number may start
with a plus sign and has at most 64 bits; a date counts if it is still to come.
-/
namespace TicketGrant.Http.RetryAfter

/-- The largest number of seconds in a hint. -/
def maxSeconds : Nat := UInt64.size / 2 - 1

/-- The number of one or more digits. -/
def number? (digits : List Char) : Option Nat :=
  if digits.isEmpty || !digits.all Char.isDigit then none else some (MailDate.number digits)

/-- A number of seconds, if it has at most 64 bits. -/
def seconds? (text : List Char) : Option Nat := do
  let digits := match text with
    | '+' :: rest => rest
    | _ => text
  let n ← number? digits
  if n < UInt64.size then some n else none

/-- The text without blanks at its ends. -/
def withoutBlanks (text : List Char) : List Char :=
  ((text.dropWhile Text.isBlank).reverse.dropWhile Text.isBlank).reverse

/-- The time from now to a date that is still to come. -/
def untilDate? (text : List Char) (now : Instant) : Option Duration := do
  let moment ← MailDate.nanos? (String.ofList text)
  if now.nanos < moment then some ⟨moment - now.nanos⟩ else none

/-- The hint in a text. -/
def ofText? (text : String) (now : Instant) : Option Duration :=
  match seconds? (withoutBlanks text.toList) with
  | some n => some (.seconds (min n maxSeconds))
  | none => untilDate? (withoutBlanks text.toList) now

/-- The hint of an answer. -/
def ofHeaders? (headers : List Header) (now : Instant) : Option Duration := do
  ofText? (← readable? (← fieldValue? headers "retry-after")) now

end TicketGrant.Http.RetryAfter
