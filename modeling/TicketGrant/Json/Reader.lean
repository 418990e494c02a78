import TicketGrant.Json.Node
import TicketGrant.Json.Numeral
import TicketGrant.Json.Text

/-!
# Reading JSON documents

A document is read by a machine with a stack: one step per byte, so reading a text is a left fold
over its bytes. The stack holds the lists and objects that are still open, the innermost first.
After the first fault the machine has stopped: further bytes change nothing, and the open lists and
objects are closed as cut. After the root value only white space may follow.
-/
namespace TicketGrant.Json

/-- A list or an object that is still open; its parts are kept last first. -/
inductive Frame where
  /-- An open list. -/
  | list (items : List Node)
  /-- An open object between two members. -/
  | object (members : List (Option String × Node))
  /-- An open object whose member of this name lacks its value. -/
  | member (members : List (Option String × Node)) (name : Option String)

/-- What the machine waits for. -/
inductive Mode where
  /-- A value: the root's, or a member's. -/
  | value
  /-- The first element of a list, or its end. -/
  | firstItem
  /-- An element after a comma. -/
  | nextItem
  /-- The first name of an object, or its end. -/
  | firstName
  /-- A name after a comma. -/
  | nextName
  /-- The colon after a name. -/
  | colon (name : Option String)
  /-- A comma or the end of the innermost list or object. -/
  | separator
  /-- The rest of a value's text. -/
  | text (reading : TextReading)
  /-- The rest of a name. -/
  | name (reading : TextReading)
  /-- The rest of a word that stands for a value. -/
  | word (rest : Bytes) (value : Node)
  /-- The rest of a numeral. -/
  | numeral (numeral : Numeral)
  /-- White space after the root value. -/
  | done (root : Node)
  /-- Nothing: something other than white space followed the root value. -/
  | trailing (root : Node)
  /-- Nothing: reading stopped inside the root value. -/
  | stopped (root : Node)

/-- The machine between two bytes. -/
structure Reader where
  stack : List Frame
  mode : Mode

namespace Reader

/-- The machine before the first byte. -/
def start : Reader := ⟨[], .value⟩

/-- Whether a byte is white space between JSON tokens. -/
def isSpace (b : UInt8) : Bool := b == 0x20 || b == 0x09 || b == 0x0A || b == 0x0D

/-- Goes on after a value: it becomes part of the innermost open list or object, or the root. -/
def complete (stack : List Frame) (value : Node) : Reader :=
  match stack with
  | [] => ⟨[], .done value⟩
  | .list items :: rest => ⟨.list (value :: items) :: rest, .separator⟩
  | .object members :: rest => ⟨.object members :: rest, .separator⟩
  | .member members name :: rest => ⟨.object ((name, value) :: members) :: rest, .separator⟩

/-- The root value when reading stops with the innermost value being `value`. -/
def abandoned (value : Node) : List Frame → Node
  | [] => value
  | .list items :: rest => abandoned (.list (value :: items).reverse .cut) rest
  | .object members :: rest => abandoned (.object members.reverse .cut) rest
  | .member members name :: rest =>
    abandoned (.object ((name, value) :: members).reverse .cut) rest

/-- Stops where a value cannot be read. -/
def stopValue (stack : List Frame) : Reader := ⟨[], .stopped (abandoned .broken stack)⟩

/-- Stops inside the innermost list or object, where a part of it should stand. -/
def stopInside (ending : Ending) (stack : List Frame) : Reader :=
  match stack with
  | .list items :: rest => ⟨[], .stopped (abandoned (.list items.reverse ending) rest)⟩
  | .object members :: rest => ⟨[], .stopped (abandoned (.object members.reverse ending) rest)⟩
  | _ => stopValue stack

/-- Stops where the colon after a name should stand. A name that is no text is a fault by itself. -/
def stopAfterName (name : Option String) (stack : List Frame) : Reader :=
  stopInside (if name.isSome then .noColon else .cut) stack

/-- Reads the first byte of a value. -/
def beginValue (stack : List Frame) (b : UInt8) : Reader :=
  match b with
  | 0x22 => ⟨stack, .text .start⟩
  | 0x5B => ⟨.list [] :: stack, .firstItem⟩
  | 0x7B => ⟨.object [] :: stack, .firstName⟩
  | 0x6E => ⟨stack, .word [0x75, 0x6C, 0x6C] .null⟩
  | 0x74 => ⟨stack, .word [0x72, 0x75, 0x65] (.bool true)⟩
  | 0x66 => ⟨stack, .word [0x61, 0x6C, 0x73, 0x65] (.bool false)⟩
  | _ =>
    match Numeral.start? b with
    | some numeral => ⟨stack, .numeral numeral⟩
    | none => stopValue stack

/-- Closes the innermost list or object. -/
def close (stack : List Frame) : Reader :=
  match stack with
  | .list items :: rest => complete rest (.list items.reverse .closed)
  | .object members :: rest => complete rest (.object members.reverse .closed)
  | _ => stopValue stack

/-- Reads a byte after a value. -/
def afterValue (r : Reader) (b : UInt8) : Reader :=
  match r.mode, r.stack with
  | .done root, _ => if isSpace b then r else ⟨[], .trailing root⟩
  | _, .list _ :: _ =>
    if isSpace b then r
    else if b = 0x2C then ⟨r.stack, .nextItem⟩
    else if b = 0x5D then close r.stack
    else stopInside .cut r.stack
  | _, _ =>
    if isSpace b then r
    else if b = 0x2C then ⟨r.stack, .nextName⟩
    else if b = 0x7D then close r.stack
    else stopInside .cut r.stack

/-- Reads a byte. -/
def step (r : Reader) (b : UInt8) : Reader :=
  match r.mode with
  | .value => if isSpace b then r else beginValue r.stack b
  | .firstItem =>
    if isSpace b then r else if b = 0x5D then close r.stack else beginValue r.stack b
  | .nextItem =>
    if isSpace b then r else if b = 0x5D then stopInside .cut r.stack else beginValue r.stack b
  | .firstName =>
    if isSpace b then r
    else if b = 0x7D then close r.stack
    else if b = 0x22 then ⟨r.stack, .name .start⟩
    else stopInside .cut r.stack
  | .nextName =>
    if isSpace b then r
    else if b = 0x22 then ⟨r.stack, .name .start⟩
    else stopInside .cut r.stack
  | .colon name =>
    if isSpace b then r
    else if b = 0x3A then
      match r.stack with
      | .object members :: rest => ⟨.member members name :: rest, .value⟩
      | _ => stopValue r.stack
    else stopAfterName name r.stack
  | .separator => afterValue r b
  | .text reading =>
    match reading.step b with
    | .more reading => ⟨r.stack, .text reading⟩
    | .ended content => complete r.stack (.text content)
    | .malformed => stopValue r.stack
  | .name reading =>
    match reading.step b with
    | .more reading => ⟨r.stack, .name reading⟩
    | .ended content => ⟨r.stack, .colon content⟩
    | .malformed => stopInside .cut r.stack
  | .word rest value =>
    match rest with
    | [] => stopValue r.stack
    | [c] => if b = c then complete r.stack value else stopValue r.stack
    | c :: rest => if b = c then ⟨r.stack, .word rest value⟩ else stopValue r.stack
  | .numeral numeral =>
    match numeral.step b with
    | .more numeral => ⟨r.stack, .numeral numeral⟩
    | .ended => afterValue (complete r.stack (.number numeral.value?)) b
    | .malformed => stopValue r.stack
  | .done _ => afterValue r b
  | .trailing _ => r
  | .stopped _ => r

/-- Reads a byte sequence. -/
def run (r : Reader) (bytes : Bytes) : Reader := bytes.foldl step r

/-- Stops the machine at the end of the input. -/
def finish (r : Reader) : Reader :=
  match r.mode with
  | .value | .text _ | .word _ _ => stopValue r.stack
  | .firstItem | .nextItem | .firstName | .nextName | .separator | .name _ =>
    stopInside .cut r.stack
  | .colon name => stopAfterName name r.stack
  | .numeral numeral =>
    if numeral.isWhole then
      let r := complete r.stack (.number numeral.value?)
      match r.mode with
      | .separator => stopInside .cut r.stack
      | _ => r
    else stopValue r.stack
  | .done _ | .trailing _ | .stopped _ => r

end Reader

/-- A document as it was read. -/
structure Document where
  root : Node
  /-- Whether nothing but white space follows the root. -/
  ended : Bool

/-- Reads a document. -/
def read (bytes : Bytes) : Document :=
  match ((Reader.start.run bytes).finish).mode with
  | .done root => ⟨root, true⟩
  | .trailing root => ⟨root, false⟩
  | .stopped root => ⟨root, true⟩
  | _ => ⟨.broken, true⟩

end TicketGrant.Json
