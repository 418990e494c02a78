/-!
# JSON numerals

A numeral is a sign, digits without a leading zero, and optionally a fraction and an exponent. It
is read byte by byte. Only a numeral without fraction and exponent has an integer as its value, and
minus zero is no integer.
-/
namespace TicketGrant.Json

/-- Which part of a numeral was read last. -/
inductive NumeralPart where
  | sign
  | zero
  | digits
  | point
  | fraction
  | mark
  | markSign
  | exponent
deriving DecidableEq

/-- A numeral that is being read. -/
structure Numeral where
  part : NumeralPart
  negative : Bool
  /-- The number that the digits before a point make. -/
  magnitude : Nat

/-- What a byte does to a numeral. -/
inductive NumeralStep where
  /-- It belongs to the numeral. -/
  | more (numeral : Numeral)
  /-- The numeral ended before it. -/
  | ended
  /-- No numeral goes on like this. -/
  | malformed

namespace Numeral

/-- Whether a byte is a decimal digit. -/
def isDigit (b : UInt8) : Bool := 0x30 ≤ b && b ≤ 0x39

/-- The numeral that starts with a byte. -/
def start? (b : UInt8) : Option Numeral :=
  if b = 0x2D then some ⟨.sign, true, 0⟩
  else if b = 0x30 then some ⟨.zero, false, 0⟩
  else if isDigit b then some ⟨.digits, false, b.toNat - 0x30⟩
  else none

/-- Reads a byte after the digits before a point. -/
def afterInteger (n : Numeral) (b : UInt8) : NumeralStep :=
  if b = 0x2E then .more { n with part := .point }
  else if b = 0x65 ∨ b = 0x45 then .more { n with part := .mark }
  else .ended

/-- Reads a byte. -/
def step (n : Numeral) (b : UInt8) : NumeralStep :=
  match n.part with
  | .sign =>
    if b = 0x30 then .more { n with part := .zero }
    else if isDigit b then .more { n with part := .digits, magnitude := b.toNat - 0x30 }
    else .malformed
  | .zero => if isDigit b then .malformed else n.afterInteger b
  | .digits =>
    if isDigit b then .more { n with magnitude := n.magnitude * 10 + (b.toNat - 0x30) }
    else n.afterInteger b
  | .point => if isDigit b then .more { n with part := .fraction } else .malformed
  | .fraction =>
    if isDigit b then .more n
    else if b = 0x65 ∨ b = 0x45 then .more { n with part := .mark }
    else .ended
  | .mark =>
    if b = 0x2B ∨ b = 0x2D then .more { n with part := .markSign }
    else if isDigit b then .more { n with part := .exponent }
    else .malformed
  | .markSign => if isDigit b then .more { n with part := .exponent } else .malformed
  | .exponent => if isDigit b then .more n else .ended

/-- Whether a numeral may end here. -/
def isWhole (n : Numeral) : Bool :=
  match n.part with
  | .zero | .digits | .fraction | .exponent => true
  | .sign | .point | .mark | .markSign => false

/-- The integer that a whole numeral writes, if it writes one. -/
def value? (n : Numeral) : Option Int :=
  match n.part with
  | .zero => if n.negative then none else some 0
  | .digits => some (if n.negative then -(n.magnitude : Int) else n.magnitude)
  | _ => none

end Numeral
end TicketGrant.Json
