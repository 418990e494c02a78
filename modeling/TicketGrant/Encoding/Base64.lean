import TicketGrant.Text.Utf8

/-!
# Base64

Three bytes are four digits of six bits. The standard alphabet pads the last group with `=`; the
URL-safe one does not. Reading is strict: it refuses bits that no byte accounts for, so each byte
sequence has one written form.
-/
namespace TicketGrant.Base64

/-- The two digits in which alphabets differ, and whether the last group is padded. -/
structure Alphabet where
  /-- The digit of 62. -/
  digit62 : Char
  /-- The digit of 63. -/
  digit63 : Char
  /-- Whether a short last group is filled up with `=`. -/
  padded : Bool

/-- The standard alphabet, padded. -/
def standard : Alphabet := ⟨'+', '/', true⟩

/-- The alphabet that needs no escape in URLs, without padding. -/
def urlSafe : Alphabet := ⟨'-', '_', false⟩

namespace Alphabet

/-- The digit of a number below 64. -/
def digit (a : Alphabet) (n : Nat) : Char :=
  if n < 26 then Char.ofNat (n + 65)
  else if n < 52 then Char.ofNat (n - 26 + 97)
  else if n < 62 then Char.ofNat (n - 52 + 48)
  else if n = 62 then a.digit62
  else a.digit63

/-- The number of a digit. -/
def value? (a : Alphabet) (c : Char) : Option Nat :=
  if 'A' ≤ c ∧ c ≤ 'Z' then some (c.toNat - 65)
  else if 'a' ≤ c ∧ c ≤ 'z' then some (c.toNat - 97 + 26)
  else if '0' ≤ c ∧ c ≤ '9' then some (c.toNat - 48 + 52)
  else if c = a.digit62 then some 62
  else if c = a.digit63 then some 63
  else none

/-- What fills a last group that lacks `n` digits. -/
def padding (a : Alphabet) (n : Nat) : List Char :=
  if a.padded then List.replicate n '=' else []

/-- The digits of a byte sequence. -/
def digits (a : Alphabet) : Bytes → List Char
  | [] => []
  | [x] => a.digit (x.toNat / 4) :: a.digit (x.toNat % 4 * 16) :: a.padding 2
  | [x, y] =>
    a.digit (x.toNat / 4) :: a.digit (x.toNat % 4 * 16 + y.toNat / 16) ::
      a.digit (y.toNat % 16 * 4) :: a.padding 1
  | x :: y :: z :: rest =>
    a.digit (x.toNat / 4) :: a.digit (x.toNat % 4 * 16 + y.toNat / 16) ::
      a.digit (y.toNat % 16 * 4 + z.toNat / 64) :: a.digit (z.toNat % 64) :: digits a rest

/-- The bytes of a last group of two digits. -/
def pair? (a : Alphabet) (p q : Char) : Option Bytes := do
  let p ← a.value? p
  let q ← a.value? q
  if q % 16 = 0 then some [UInt8.ofNat (p * 4 + q / 16)] else none

/-- The bytes of a last group of three digits. -/
def triple? (a : Alphabet) (p q r : Char) : Option Bytes := do
  let p ← a.value? p
  let q ← a.value? q
  let r ← a.value? r
  if r % 4 = 0 then
    some [UInt8.ofNat (p * 4 + q / 16), UInt8.ofNat (q % 16 * 16 + r / 4)]
  else none

/-- The bytes of a group of four digits. -/
def group? (a : Alphabet) (p q r s : Char) : Option Bytes := do
  let p ← a.value? p
  let q ← a.value? q
  let r ← a.value? r
  let s ← a.value? s
  some [UInt8.ofNat (p * 4 + q / 16), UInt8.ofNat (q % 16 * 16 + r / 4),
    UInt8.ofNat (r % 4 * 64 + s)]

/-- The byte sequence of its digits. -/
def bytes? (a : Alphabet) : List Char → Option Bytes
  | [] => some []
  | [p, q] => if a.padded then none else a.pair? p q
  | [p, q, r] => if a.padded then none else a.triple? p q r
  | p :: q :: r :: s :: rest =>
    if a.padded && rest.isEmpty && s == '=' then
      if r == '=' then a.pair? p q else a.triple? p q r
    else do
      let group ← a.group? p q r s
      let more ← bytes? a rest
      some (group ++ more)
  | _ => none

/-- The written form of a byte sequence. -/
def encode (a : Alphabet) (bytes : Bytes) : String := String.ofList (a.digits bytes)

/-- The byte sequence of a written form. -/
def decode? (a : Alphabet) (text : String) : Option Bytes := a.bytes? text.toList

end Alphabet
end TicketGrant.Base64
