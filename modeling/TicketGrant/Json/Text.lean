import TicketGrant.Text.Utf8

/-!
# JSON texts

The bytes between two quotation marks are read one by one. Control characters and unknown escapes
are no JSON. An escape names a 16-bit unit; a surrogate unit is half of a character and needs its
other half in the very next escape. A text with a lone half, or whose bytes are no UTF-8, is well
formed but has no content.
-/
namespace TicketGrant.Json

/-- Where the reading of a text stands. -/
inductive TextPart where
  /-- Between characters. -/
  | plain
  /-- After a backslash. -/
  | escape
  /-- Inside a numbered escape: digits owed and the number so far. -/
  | unit (owed : Nat) (value : Nat)

/-- A text that is being read. -/
structure TextReading where
  part : TextPart
  /-- The bytes of the text so far, the last one first. -/
  bytes : Bytes
  /-- The first half of a surrogate pair, if the last thing read was one. -/
  half : Option Nat
  /-- Whether a lone half has been read. -/
  lone : Bool

/-- What a byte does to a text. -/
inductive TextStep where
  /-- It belongs to the text. -/
  | more (reading : TextReading)
  /-- It is the closing quotation mark. -/
  | ended (content : Option String)
  /-- No text goes on like this. -/
  | malformed

namespace TextReading

/-- The text after its opening quotation mark. -/
def start : TextReading := ⟨.plain, [], none, false⟩

/-- The content of a text that ends here. -/
def content (t : TextReading) : Option String :=
  if t.lone || t.half.isSome then none else Utf8.decode? t.bytes.reverse

/-- Appends one byte. A half that was waiting stays alone. -/
def push (t : TextReading) (b : UInt8) : TextReading :=
  { part := .plain, bytes := b :: t.bytes, half := none, lone := t.lone || t.half.isSome }

/-- Appends a character that an escape named. -/
def pushChar (t : TextReading) (code : Nat) (lone : Bool) : TextReading :=
  { part := .plain, bytes := (String.utf8EncodeChar (Char.ofNat code)).reverse ++ t.bytes
    half := none, lone }

/-- Appends the unit that an escape named. -/
def pushUnit (t : TextReading) (unit : Nat) : TextReading :=
  if 0xDC00 ≤ unit ∧ unit ≤ 0xDFFF then
    match t.half with
    | some high => t.pushChar (0x10000 + (high - 0xD800) * 0x400 + (unit - 0xDC00)) t.lone
    | none => { t with part := .plain, lone := true }
  else
    let lone := t.lone || t.half.isSome
    if 0xD800 ≤ unit ∧ unit ≤ 0xDBFF then { t with part := .plain, half := some unit, lone }
    else t.pushChar unit lone

/-- The byte that a one-letter escape stands for. -/
def escaped? (b : UInt8) : Option UInt8 :=
  match b with
  | 0x22 => some 0x22
  | 0x5C => some 0x5C
  | 0x2F => some 0x2F
  | 0x62 => some 0x08
  | 0x66 => some 0x0C
  | 0x6E => some 0x0A
  | 0x72 => some 0x0D
  | 0x74 => some 0x09
  | _ => none

/-- The number of a hexadecimal digit. -/
def hexValue? (b : UInt8) : Option Nat :=
  if 0x30 ≤ b ∧ b ≤ 0x39 then some (b.toNat - 0x30)
  else if 0x41 ≤ b ∧ b ≤ 0x46 then some (b.toNat - 0x41 + 10)
  else if 0x61 ≤ b ∧ b ≤ 0x66 then some (b.toNat - 0x61 + 10)
  else none

/-- Reads a byte. -/
def step (t : TextReading) (b : UInt8) : TextStep :=
  match t.part with
  | .plain =>
    if b = 0x22 then .ended t.content
    else if b = 0x5C then .more { t with part := .escape }
    else if b < 0x20 then .malformed
    else .more (t.push b)
  | .escape =>
    if b = 0x75 then .more { t with part := .unit 4 0 }
    else
      match escaped? b with
      | some c => .more (t.push c)
      | none => .malformed
  | .unit owed value =>
    match hexValue? b with
    | none => .malformed
    | some digit =>
      let value := value * 16 + digit
      if owed ≤ 1 then .more (t.pushUnit value) else .more { t with part := .unit (owed - 1) value }

end TextReading
end TicketGrant.Json
