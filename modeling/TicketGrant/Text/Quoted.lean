import TicketGrant.Text.Printable

/-!
# Quoted texts

How described output shows texts and single characters: between quotation marks, with escapes for
the mark itself, the backslash and everything that would not be visible.
-/
namespace TicketGrant.Text

/-- The digits of a number in hexadecimal, at least one. -/
def hexDigits (n : Nat) : List Char := Nat.toDigits 16 n

/-- A character inside quotation marks of a kind. -/
def quoteChar (mark c : Char) : List Char :=
  if c = '\x00' then ['\\', '0']
  else if c = '\t' then ['\\', 't']
  else if c = '\x0d' then ['\\', 'r']
  else if c = '\n' then ['\\', 'n']
  else if c = '\\' ∨ c = mark then ['\\', c]
  else if isPrintable c then [c]
  else ['\\', 'u', '\x7b'] ++ hexDigits c.toNat ++ ['\x7d']

/-- A text in double quotation marks. -/
def quoted (text : String) : String :=
  String.ofList ('\x22' :: (text.toList.flatMap (quoteChar '\x22') ++ ['\x22']))

/-- A character in single quotation marks. -/
def quotedChar (c : Char) : String :=
  String.ofList ('\x27' :: (quoteChar '\x27' c ++ ['\x27']))

end TicketGrant.Text
