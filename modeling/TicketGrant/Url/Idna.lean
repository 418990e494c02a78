import TicketGrant.Text.Blank
import TicketGrant.Text.Normal
import TicketGrant.Url.Idna.Bidi
import TicketGrant.Url.Idna.Joining
import TicketGrant.Url.Idna.Mapping
import TicketGrant.Url.Idna.Punycode

/-!
# Host names in ASCII

A host name may hold characters of any script. For look-up it is mapped and brought into normal
form; then each label with other characters than ASCII is written in ASCII behind `xn--`. A label
that comes in this form has to be the form of a label that could have come in its own.
-/
namespace TicketGrant.Url.Idna

open Text

/-- The ASCII characters that no host name holds. -/
def isForbidden (n : Nat) : Bool :=
  n ≤ 0x20 || n == 0x7F || ("%#/:<>?@[\\]^|".toList.map Char.toNat).contains n

/-- What marks a label in ASCII form. -/
def aceMark : List Nat := "xn--".toList.map Char.toNat

/-- A text after mapping and in normal form. -/
def mapped? (text : List Nat) : Option (List Nat) := do
  let images ← text.mapM image?
  let joined := images.flatten
  some (if joined.all (· < 0x80) then joined else Normal.normal joined)

/-- The longest label, in characters, that is brought into ASCII form. -/
def maxLabel : Nat := 1000

/-- The most that is read behind `xn--`. -/
def maxAceLabel : Nat := 2000

/-- A label in its own characters. -/
def readable? (label : List Nat) : Option (List Nat) :=
  if label.take 4 = aceMark then do
    let written := label.drop 4
    if maxAceLabel < written.length then none
    else
      let text ← Punycode.decode? (written.map Char.ofNat)
      if text.any (0x80 ≤ ·) ∧ mapped? text = some text then some text else none
  else some label

/-- Whether a label could be a part of a name: it does not begin with a mark, and joiners are in
place. -/
def isSound (label : List Nat) : Bool :=
  !(label.head?.any marks.contains) && Joining.areInPlace [] label

/-- Whether each label keeps to one direction, if a character is written from right to left. -/
def keepDirections (labels : List (List Nat)) : Bool :=
  let classes := labels.map fun label => label.map BidiClass.ofCode
  !(classes.any (·.any BidiClass.isRightward)) || classes.all BidiClass.isOneWay

/-- A label in ASCII. -/
def aceLabel? (label : List Nat) : Option (List Char) :=
  if label.all (· < 0x80) then some (label.map Char.ofNat)
  else if maxLabel < label.length then none
  else some (aceMark.map Char.ofNat ++ Punycode.encode label)

/-- The labels of a name. -/
def labels (name : List Nat) : List (List Nat) :=
  (pieces (· == '.') (name.map Char.ofNat)).map (·.map Char.toNat)

/-- The written form of a host name. -/
def toAscii? (name : String) : Option String := do
  let mapped ← mapped? (name.toList.map Char.toNat)
  if mapped.any isForbidden then none
  else
    let labels ← (labels mapped).mapM readable?
    if labels.all isSound ∧ keepDirections labels then
      let written ← labels.mapM aceLabel?
      some (String.ofList (List.intercalate ['.'] written))
    else none

end TicketGrant.Url.Idna
