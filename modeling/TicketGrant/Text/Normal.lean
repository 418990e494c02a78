import TicketGrant.Text.Composites

/-!
# Normal form

Texts that look the same may differ in how marks are written. In normal form (NFC) characters are
taken apart, marks are put into the order of their classes, and what can be written as one
character is put together again.
-/
namespace TicketGrant.Text.Normal

/-- The first Hangul syllable, leading, vowel and trailing letter. -/
def syllableBase : Nat := 0xAC00
@[inherit_doc syllableBase] def leadBase : Nat := 0x1100
@[inherit_doc syllableBase] def vowelBase : Nat := 0x1161
/-- The code point before the first trailing letter, which stands for none. -/
def trailBase : Nat := 0x11A7

/-- The parts of a Hangul syllable: a trailing letter is taken off first. -/
def syllableParts? (n : Nat) : Option (Nat × Nat) :=
  if syllableBase ≤ n ∧ n < syllableBase + 11172 then
    let i := n - syllableBase
    if i % 28 = 0 then some (leadBase + i / 588, vowelBase + i % 588 / 28)
    else some (n - i % 28, trailBase + i % 28)
  else none

/-- The Hangul syllable of two parts. -/
def syllable? (a b : Nat) : Option Nat :=
  if leadBase ≤ a ∧ a < leadBase + 19 ∧ vowelBase ≤ b ∧ b < vowelBase + 21 then
    some (syllableBase + ((a - leadBase) * 21 + (b - vowelBase)) * 28)
  else if syllableBase ≤ a ∧ a < syllableBase + 11172 ∧ (a - syllableBase) % 28 = 0 ∧
      trailBase < b ∧ b < trailBase + 28 then
    some (a + (b - trailBase))
  else none

/-- The two parts of a composite. -/
def parts? (n : Nat) : Option (Nat × Nat) := syllableParts? n <|> composites.find? n

/-- The composite of two parts. -/
def composite? (a b : Nat) : Option Nat :=
  syllable? a b <|> (composites.entries.find? (·.2.2 == (a, b))).map (·.1)

/-- Takes a character apart. Only its first part can be a composite again, so `depth` bounds how
often; the tables need three. -/
def decompose : Nat → Nat → List Nat
  | 0, n => [n]
  | depth + 1, n =>
    match parts? n with
    | none => [n]
    | some (a, b) => decompose depth a ++ [b]

/-- Puts a character behind a text that is written backwards: a mark goes before the marks of higher
classes. -/
def insertMark (n : Nat) : List Nat → List Nat
  | [] => [n]
  | m :: rest =>
    if 0 < combiningClass n ∧ combiningClass n < combiningClass m then m :: insertMark n rest
    else n :: m :: rest

/-- What has been put together so far. -/
structure Composing where
  /-- What is finished, backwards. -/
  done : List Nat := []
  /-- The character that marks may still join. -/
  starter : Option Nat := none
  /-- The marks that did not join it, backwards. -/
  marks : List Nat := []

/-- All characters, backwards. -/
def Composing.all (c : Composing) : List Nat := c.marks ++ c.starter.toList ++ c.done

/-- Adds a character. It joins the starter unless a mark of its class or a higher one is between. -/
def Composing.add (c : Composing) (n : Nat) : Composing :=
  let blocked := c.marks.head?.any fun m => combiningClass n ≤ combiningClass m
  match if blocked then none else c.starter.bind (composite? · n) with
  | some whole => { c with starter := some whole }
  | none =>
    if combiningClass n = 0 then { done := c.all, starter := some n }
    else { c with marks := n :: c.marks }

/-- The normal form of a text. -/
def normal (text : List Nat) : List Nat :=
  let apart := text.flatMap (decompose 3)
  let ordered := (apart.foldl (fun back n => insertMark n back) []).reverse
  (ordered.foldl Composing.add {}).all.reverse

end TicketGrant.Text.Normal
