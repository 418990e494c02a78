import TicketGrant.Text.Quoted

/-!
# Described values

For logs and messages a value is described by an outline: its name, its fields, its elements. An
outline is written on one line, or with one line for each part and a comma after each.
-/
namespace TicketGrant

/-- The description of a value. -/
inductive Outline where
  /-- A text that is shown as it is. -/
  | atom (text : String)
  /-- A name with named fields. -/
  | fields (name : String) (parts : List (String × Outline))
  /-- A name with unnamed parts. -/
  | tuple (name : String) (parts : List Outline)
  /-- A list of values. -/
  | list (parts : List Outline)

namespace Outline

/-- A text in quotation marks. -/
def text (s : String) : Outline := .atom (Text.quoted s)

/-- A character in quotation marks. -/
def char (c : Char) : Outline := .atom (Text.quotedChar c)

/-- A truth value. -/
def bool (b : Bool) : Outline := .atom (if b then "true" else "false")

/-- A natural number. -/
def nat (n : Nat) : Outline := .atom (toString n)

/-- A value that may be missing. -/
def option {α : Type} (describe : α → Outline) : Option α → Outline
  | none => .atom "None"
  | some a => .tuple "Some" [describe a]

/-- Parts with a comma and a space between them. -/
def joined : List (List Char) → List Char := List.intercalate [',', ' ']

mutual
/-- An outline on one line. -/
def inline : Outline → List Char
  | .atom text => text.toList
  | .fields name parts =>
    name.toList ++ [' ', '\x7b', ' '] ++ joined (inlineFields parts) ++ [' ', '\x7d']
  | .tuple name parts => name.toList ++ '(' :: joined (inlineParts parts) ++ [')']
  | .list parts => '[' :: joined (inlineParts parts) ++ [']']

/-- The named parts, each on one line. -/
def inlineFields : List (String × Outline) → List (List Char)
  | [] => []
  | (name, part) :: rest => (name.toList ++ ':' :: ' ' :: inline part) :: inlineFields rest

/-- The parts, each on one line. -/
def inlineParts : List Outline → List (List Char)
  | [] => []
  | part :: rest => inline part :: inlineParts rest
end

/-- The start of a line at a depth. -/
def margin (depth : Nat) : List Char := List.replicate (4 * depth) ' '

mutual
/-- An outline with one line for each part, at a depth. -/
def block (depth : Nat) : Outline → List Char
  | .atom text => text.toList
  | .fields name parts =>
    name.toList ++ [' ', '\x7b', '\n'] ++ blockFields (depth + 1) parts ++ margin depth ++ ['\x7d']
  | .tuple name parts =>
    name.toList ++ ['(', '\n'] ++ blockParts (depth + 1) parts ++ margin depth ++ [')']
  | .list [] => ['[', ']']
  | .list (part :: rest) =>
    ['[', '\n'] ++ (margin (depth + 1) ++ block (depth + 1) part ++ [',', '\n']) ++
      blockParts (depth + 1) rest ++ margin depth ++ [']']

/-- The lines of named parts. -/
def blockFields (depth : Nat) : List (String × Outline) → List Char
  | [] => []
  | (name, part) :: rest =>
    margin depth ++ name.toList ++ ':' :: ' ' :: block depth part ++ [',', '\n'] ++
      blockFields depth rest

/-- The lines of parts. -/
def blockParts (depth : Nat) : List Outline → List Char
  | [] => []
  | part :: rest => margin depth ++ block depth part ++ [',', '\n'] ++ blockParts depth rest
end

/-- The description on one line. -/
def line (o : Outline) : String := String.ofList o.inline

/-- The description on several lines. -/
def lines (o : Outline) : String := String.ofList (o.block 0)

end Outline
end TicketGrant
