import TicketGrant.Json.Path

/-!
# Writing JSON

Values are written compactly, members in the order they have. Texts escape the quotation mark, the
backslash and the characters below U+0020. A member's name has to be a text: a map from anything
else has no JSON form.
-/
namespace TicketGrant.Json

/-- The name of a member that is to be written. -/
inductive Name where
  | text (name : String)
  /-- A sequence of bytes, which is no JSON name. -/
  | octets (bytes : List UInt8)

/-- A value that is to be written. -/
inductive Value where
  | null
  | bool (value : Bool)
  | integer (value : Int)
  | text (content : String)
  | list (items : List Value)
  | object (members : List (Name × Value))

/-- The hexadecimal digit of a number below 16. -/
def hexDigit (n : Nat) : Char :=
  if n < 10 then Char.ofNat (n + 48) else Char.ofNat (n - 10 + 97)

/-- A character inside a written text. -/
def escapeChar (c : Char) : List Char :=
  if c = '\x22' then ['\\', '\x22']
  else if c = '\\' then ['\\', '\\']
  else if c = '\x08' then ['\\', 'b']
  else if c = '\x0c' then ['\\', 'f']
  else if c = '\n' then ['\\', 'n']
  else if c = '\x0d' then ['\\', 'r']
  else if c = '\t' then ['\\', 't']
  else if c.toNat < 0x20 then ['\\', 'u', '0', '0', hexDigit (c.toNat / 16), hexDigit (c.toNat % 16)]
  else [c]

/-- A text as it is written. -/
def writeText (content : String) : List Char :=
  '\x22' :: (content.toList.flatMap escapeChar ++ ['\x22'])

/-- A name as it is written. -/
def Name.write : Name → List Char
  | .text name => writeText name
  | .octets _ => writeText ""

namespace Value

/-- An object whose names are texts. -/
def record (members : List (String × Value)) : Value :=
  .object (members.map fun m => (.text m.1, m.2))

/-- A list of texts. -/
def texts (items : List String) : Value := .list (items.map .text)

mutual
/-- A value as it is written. -/
def write : Value → List Char
  | .null => ['n', 'u', 'l', 'l']
  | .bool true => ['t', 'r', 'u', 'e']
  | .bool false => ['f', 'a', 'l', 's', 'e']
  | .integer value => (toString value).toList
  | .text content => writeText content
  | .list items => '[' :: writeItems true items
  | .object members => '\x7b' :: writeMembers true members

/-- The elements of a list and its end; a comma comes before all but the first. -/
def writeItems (first : Bool) : List Value → List Char
  | [] => [']']
  | v :: rest => (if first then [] else [',']) ++ write v ++ writeItems false rest

/-- The members of an object and its end; a comma comes before all but the first. -/
def writeMembers (first : Bool) : List (Name × Value) → List Char
  | [] => ['\x7d']
  | (name, v) :: rest =>
    (if first then [] else [',']) ++ name.write ++ ':' :: write v ++ writeMembers false rest
end

mutual
/-- Where a value stops being writable: the place of the object with a name that is no text. -/
def fault? : Value → Option Path
  | .list items => itemsFault? 0 items
  | .object members => membersFault? members
  | _ => none

/-- The first fault of a list's elements, counted from `position`. -/
def itemsFault? (position : Nat) : List Value → Option Path
  | [] => none
  | v :: rest =>
    match fault? v with
    | some path => some (.index position :: path)
    | none => itemsFault? (position + 1) rest

/-- The first fault of an object's members. -/
def membersFault? : List (Name × Value) → Option Path
  | [] => none
  | (.octets _, _) :: _ => some []
  | (.text name, v) :: rest =>
    match fault? v with
    | some path => some (.key name :: path)
    | none => membersFault? rest
end

/-- A value as it is written, as a text. -/
def render (v : Value) : String := String.ofList v.write

end Value
end TicketGrant.Json
