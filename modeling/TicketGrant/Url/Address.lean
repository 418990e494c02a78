/-!
# Network addresses

Four-byte addresses are written as one to four numbers, of which the last fills the bytes that the
others leave; numbers may be decimal, octal or hexadecimal. Sixteen-byte addresses are eight pieces
of 16 bits, of which one run of zeros may be left out.
-/
namespace TicketGrant.Url

/-- The number of a digit in a base up to 16. -/
def digitValue? (base : Nat) (c : Char) : Option Nat :=
  let value :=
    if '0' ≤ c ∧ c ≤ '9' then c.toNat - 48
    else if 'a' ≤ c ∧ c ≤ 'f' then c.toNat - 87
    else if 'A' ≤ c ∧ c ≤ 'F' then c.toNat - 55
    else 16
  if value < base then some value else none

/-- The number that digits in a base make, unless one is no digit. -/
def number? (base : Nat) (digits : List Char) : Option Nat :=
  digits.foldlM (fun n c => (digitValue? base c).map (n * base + ·)) 0

/-- The pieces of a text between the occurrences of a character. -/
def splitAt (separator : Char) (text : List Char) : List (List Char) :=
  let step := fun (c : Char) (acc : List Char × List (List Char)) =>
    if c = separator then ([], acc.1 :: acc.2) else (c :: acc.1, acc.2)
  let (first, rest) := text.foldr step ([], [])
  first :: rest

namespace Ipv4

/-- A number of an address: hexadecimal after `0x`, octal after another `0`, else decimal. Digits
may be missing after a mark of the base. -/
def part? : List Char → Option Nat
  | [] => none
  | '0' :: 'x' :: digits => number? 16 digits
  | '0' :: 'X' :: digits => number? 16 digits
  | '0' :: c :: digits => number? 8 (c :: digits)
  | digits => number? 10 digits

/-- The parts of a host name, without the empty one after a final point. -/
def parts (host : List Char) : List (List Char) :=
  let all := splitAt '.' host
  if all.length > 1 ∧ all.getLast? = some [] then all.dropLast else all

/-- Whether a host name has to be an address: its last part is a number. -/
def isMeant (host : List Char) : Bool :=
  match (parts host).getLast? with
  | none => false
  | some last => (!last.isEmpty && last.all Char.isDigit) || (part? last).isSome

/-- The address of a host name whose last part is a number. -/
def parse? (host : List Char) : Option Nat := do
  let numbers ← (parts host).mapM part?
  let leading := numbers.dropLast
  let last ← numbers.getLast?
  if numbers.length > 4 ∨ leading.any (· > 255) ∨ last ≥ Nat.pow 256 (5 - numbers.length) then none
  else
    let high := leading.foldl (fun n part => n * 256 + part) 0
    some (high * Nat.pow 256 (4 - leading.length) + last)

/-- An address as four decimal numbers. -/
def render (address : Nat) : String :=
  ".".intercalate ([3, 2, 1, 0].map fun i => toString (address / Nat.pow 256 i % 256))

end Ipv4

namespace Ipv6

/-- A piece of one to four hexadecimal digits. -/
def piece? (digits : List Char) : Option Nat :=
  if digits.isEmpty ∨ digits.length > 4 then none else number? 16 digits

/-- A decimal byte without leading zeros. -/
def byte? (digits : List Char) : Option Nat :=
  match digits with
  | [] => none
  | '0' :: _ :: _ => none
  | _ => (number? 10 digits).filter (· ≤ 255)

/-- The two pieces of a four-byte address in decimal numbers. -/
def dotted? (text : List Char) : Option (List Nat) :=
  match splitAt '.' text with
  | [a, b, c, d] => do
    some [(← byte? a) * 256 + (← byte? b), (← byte? c) * 256 + (← byte? d)]
  | _ => none

/-- The pieces between colons; the last one may be a four-byte address if `mayDot`. -/
def pieces? (mayDot : Bool) : List (List Char) → Option (List Nat)
  | [] => some []
  | [last] => if mayDot && last.contains '.' then dotted? last else (piece? last).map ([·])
  | first :: rest => do some ((← piece? first) :: (← pieces? mayDot rest))

/-- The pieces of one side of the gap; an empty side has none. -/
def side? (mayDot : Bool) (text : List Char) : Option (List Nat) :=
  if text.isEmpty then some [] else pieces? mayDot (splitAt ':' text)

/-- What stands before and after the first `::`. -/
def splitGap : List Char → Option (List Char × List Char)
  | ':' :: ':' :: rest => some ([], rest)
  | c :: rest => (splitGap rest).map fun (before, after) => (c :: before, after)
  | [] => none

/-- The eight pieces of an address. -/
def parse? (text : List Char) : Option (List Nat) :=
  match splitGap text with
  | none => do
    let pieces ← side? true text
    if pieces.length = 8 then some pieces else none
  | some (before, after) => do
    let left ← side? false before
    let right ← side? true after
    if left.length + right.length < 8 then
      some (left ++ List.replicate (8 - left.length - right.length) 0 ++ right)
    else none

/-- How many zeros the pieces start with. -/
def zeros (pieces : List Nat) : Nat := (pieces.takeWhile (· == 0)).length

/-- The longest run of at least two zeros, the first of several: its start and length. -/
def gap? (pieces : List Nat) : Option (Nat × Nat) :=
  (List.range pieces.length).foldl (fun best start =>
    let length := zeros (pieces.drop start)
    match best with
    | some (_, longest) => if longest < length then some (start, length) else best
    | none => if 2 ≤ length then some (start, length) else none) none

/-- Pieces with colons between them. -/
def renderPieces (pieces : List Nat) : String :=
  ":".intercalate (pieces.map fun piece => String.ofList (Nat.toDigits 16 piece))

/-- An address with its longest run of zeros left out. -/
def render (pieces : List Nat) : String :=
  match gap? pieces with
  | none => renderPieces pieces
  | some (start, length) =>
    renderPieces (pieces.take start) ++ "::" ++ renderPieces (pieces.drop (start + length))

end Ipv6
end TicketGrant.Url
