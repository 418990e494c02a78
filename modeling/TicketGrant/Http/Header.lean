import TicketGrant.Text.Utf8

/-!
# Header fields

A message carries named byte sequences. Names are compared without regard to case; of several
fields with one name the first counts. A value is readable if it is visible ASCII, spaces and tabs.
-/
namespace TicketGrant.Http

/-- A header field. -/
structure Header where
  name : String
  value : Bytes
deriving DecidableEq

/-- A header field with a text as its value. -/
def Header.ofText (name value : String) : Header := ⟨name, Utf8.encode value⟩

/-- A name in lower case; header names are ASCII. -/
def lowerName (name : String) : String := name.map Char.toLower

/-- The values of all fields of a name. -/
def fieldValues (headers : List Header) (name : String) : List Bytes :=
  (headers.filter fun h => lowerName h.name == lowerName name).map (·.value)

/-- The value of the first field of a name. -/
def fieldValue? (headers : List Header) (name : String) : Option Bytes :=
  (headers.find? fun h => lowerName h.name == lowerName name).map (·.value)

/-- The text of some ASCII bytes. -/
def asciiText (bytes : Bytes) : String := String.ofList (bytes.map fun b => Char.ofNat b.toNat)

/-- Whether a byte is visible ASCII, a space or a tab. -/
def isReadable (b : UInt8) : Bool := (0x20 ≤ b && b < 0x7F) || b == 0x09

/-- The text of a readable value. -/
def readable? (value : Bytes) : Option String :=
  if value.all isReadable then some (asciiText value) else none

/-- Whether a byte may stand in a name. -/
def inName (b : UInt8) : Bool :=
  let c := Char.ofNat b.toNat
  c.isAlphanum || "!#$%&'*+-.^_\x60|~".toList.contains c

/-- Whether a byte may stand in a value. -/
def inValue (b : UInt8) : Bool := b == 0x09 || (0x20 ≤ b && b != 0x7F)

/-- Whether a byte is a space or a tab. -/
def isGap (b : UInt8) : Bool := b == 0x20 || b == 0x09

/-- A value without spaces and tabs at its ends. -/
def trimmed (value : Bytes) : Bytes :=
  ((value.dropWhile isGap).reverse.dropWhile isGap).reverse

end TicketGrant.Http
