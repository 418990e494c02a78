import TicketGrant.Text.Utf8

/-!
# Percent encoding

A byte is written as itself where a set of bytes allows it, else as `%` and two hexadecimal
digits. Reading replaces every such triple and leaves a `%` without two digits alone.
-/
namespace TicketGrant.Percent

/-- The hexadecimal digit of a number below 16, with capital letters. -/
def hexDigit (n : Nat) : Char :=
  if n < 10 then Char.ofNat (n + 48) else Char.ofNat (n - 10 + 65)

/-- The number of a hexadecimal digit of either case. -/
def hexValue? (b : UInt8) : Option Nat :=
  if 0x30 ≤ b ∧ b ≤ 0x39 then some (b.toNat - 0x30)
  else if 0x41 ≤ b ∧ b ≤ 0x46 then some (b.toNat - 0x41 + 10)
  else if 0x61 ≤ b ∧ b ≤ 0x66 then some (b.toNat - 0x61 + 10)
  else none

/-- `%` and two digits. -/
def escape (b : UInt8) : List Char := ['%', hexDigit (b.toNat / 16), hexDigit (b.toNat % 16)]

/-- Writes a character: itself if the set allows it, else its bytes escaped. -/
def encodeChar (allowed : Char → Bool) (c : Char) : List Char :=
  if allowed c then [c] else (String.utf8EncodeChar c).flatMap escape

/-- Writes the characters of a text. -/
def encode (allowed : Char → Bool) (text : List Char) : List Char :=
  text.flatMap (encodeChar allowed)

/-- Replaces every escape by its byte. -/
def decode : Bytes → Bytes
  | 0x25 :: h :: l :: rest =>
    match hexValue? h, hexValue? l with
    | some h, some l => UInt8.ofNat (h * 16 + l) :: decode rest
    | _, _ => 0x25 :: decode (h :: l :: rest)
  | b :: rest => b :: decode rest
  | [] => []

end TicketGrant.Percent
