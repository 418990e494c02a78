import TicketGrant.Http.Chunked
import TicketGrant.Http.RetryAfter
import TicketGrant.Http.Transport

/-!
# The wire

The transport over a connection. It empties the slot, and fills it once the head of the answer is
there; if the body then breaks off, the head stays. Redirects are not followed. The head tells how
the body ends: some statuses have none; it may come in chunks or have an announced length; otherwise
it ends with the connection.
-/
namespace TicketGrant.Http.Wire

/-- How a body ends. -/
inductive BodyEnd where
  /-- There is no body, whatever follows the head. -/
  | absent
  | chunked
  /-- After so many bytes. -/
  | counted (length : Nat)
  /-- With the connection. -/
  | closing

/-- Whether an answer of this status has a body. -/
def hasBody (s : Status) : Bool := s.code != 101 && s.code != 204 && s.code != 304

/-- The items of a readable value between its commas, without blanks at their ends. -/
def items? (value : Bytes) : Option (List (List Char)) :=
  (readable? value).map fun text =>
    (Text.pieces (· == ',') text.toList).map RetryAfter.withoutBlanks

/-- Whether the last item of a value says that the body comes in chunks. -/
def isChunked (coding : Bytes) : Bool :=
  ((items? coding).bind (·.getLast?)).any fun item => item.map Char.toLower == "chunked".toList

/-- The longest body that can be announced. -/
def maxLength : Nat := UInt64.size - 3

/-- The length on which some values agree. -/
def length? (values : List Bytes) : Option Nat := do
  let items ← values.mapM items?
  let numbers ← items.flatten.mapM RetryAfter.number?
  match numbers with
  | [] => none
  | n :: others => if others.all (· == n) ∧ n ≤ maxLength then some n else none

/-- How the body after a head ends, if the head tells that in one way. -/
def bodyEnd? (head : ResponseHead) : Option BodyEnd :=
  if !hasBody head.status then some .absent
  else
    match (fieldValues head.headers "transfer-encoding").getLast? with
    | some coding =>
      if !head.isCurrent then none else some (if isChunked coding then .chunked else .closing)
    | none =>
      match fieldValues head.headers "content-length" with
      | [] => some .closing
      | lengths => (length? lengths).map .counted

/-- The body at the start of a text, if it is whole. -/
def body? (text : Bytes) : BodyEnd → Option Bytes
  | .absent => some []
  | .chunked => Chunked.decode? text
  | .counted length => if length ≤ text.length then some (text.take length) else none
  | .closing => some text

/-- What the head of an answer tells. -/
def answerHead (head : ResponseHead) (now : Instant) : AnswerHead :=
  ⟨some head.status, RetryAfter.ofHeaders? head.headers now⟩

/-- How the connection breaks. -/
def broken : Fault := .connection false "connection closed before message completed"

/-- The head that comes over a connection, how the body after it ends, and what follows it. -/
def arrived? (bytes : Bytes) : Option (ResponseHead × BodyEnd × Bytes) := do
  let (head, rest) ← ResponseHead.final? bytes
  let bodyEnd ← bodyEnd? head
  some (head, bodyEnd, rest)

/-- What comes back for a request. -/
inductive Arrival where
  /-- No head: the request was not taken, or no answer to it came. -/
  | nothing (fault : Fault)
  /-- A head, and behind it the body, if it is whole. -/
  | answer (head : ResponseHead) (body : Except Fault Bytes)

/-- What the transport does with what comes back. -/
def Arrival.delivery (now : Instant) : Arrival → Delivery
  | .nothing fault => ⟨[.take], .error fault⟩
  | .answer head body =>
    { actions := [.take, .store (answerHead head now)]
      outcome := body.map fun body => ⟨head.status, head.headers, body⟩ }

/-- What comes back over a connection. -/
def arrival (bytes : Bytes) : Arrival :=
  match arrived? bytes with
  | none => .nothing broken
  | some (head, bodyEnd, rest) =>
    .answer head (match body? rest bodyEnd with
      | some body => .ok body
      | none => .error broken)

/-- What the transport does with what comes over the connection. -/
def deliver (bytes : Bytes) (now : Instant) : Delivery := (arrival bytes).delivery now

/-- A response as a server writes it that announces the length of the body and closes the
connection. Of a body that is cut the last byte is missing. -/
def written (r : Response) (isCut : Bool) : Bytes :=
  let length := r.body.length + if isCut then 1 else 0
  let headers := r.headers ++
    [.ofText "content-length" (toString length), .ofText "connection" "close"]
  ResponseHead.render ⟨true, r.status, headers⟩ ++ r.body

end TicketGrant.Http.Wire
