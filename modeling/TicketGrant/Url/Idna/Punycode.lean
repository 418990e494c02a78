import TicketGrant.Text.Utf8

/-!
# Punycode

A text is written in ASCII as its ASCII characters, a hyphen, and a row of numbers: for each other
character, in increasing order, how many code points and places further it stands than the one
before. A number is written with digits from `a` to `9`, and ends with the first digit below a
threshold that rises with the digit's place and is adapted after each number.
-/
namespace TicketGrant.Url.Idna.Punycode

/-- The number of digits. -/
def base : Nat := 36

/-- The threshold for the place with weight index `k`. -/
def threshold (k bias : Nat) : Nat :=
  if k ≤ bias + 1 then 1 else if bias + 26 ≤ k then 26 else k - bias

theorem threshold_pos (k bias : Nat) : 0 < threshold k bias := by
  unfold threshold
  split
  · decide
  · split
    · decide
    · omega

theorem threshold_le (k bias : Nat) : threshold k bias ≤ 26 := by
  unfold threshold
  split
  · decide
  · split
    · decide
    · omega

/-- The steps in which a bias is adapted: large numbers are divided down first. -/
def settle (delta k : Nat) : Nat :=
  if delta ≤ 455 then k + 36 * delta / (delta + 38) else settle (delta / 35) (k + base)
termination_by delta

/-- The bias after a number, when `count` characters are known. The first number of a text says
little about the next. -/
def adapt (delta count : Nat) (isFirst : Bool) : Nat :=
  let delta := if isFirst then delta / 700 else delta / 2
  settle (delta + delta / count) 0

/-- The value of a digit. -/
def digitValue? (c : Char) : Option Nat :=
  if 'a' ≤ c ∧ c ≤ 'z' then some (c.toNat - 97)
  else if 'A' ≤ c ∧ c ≤ 'Z' then some (c.toNat - 65)
  else if '0' ≤ c ∧ c ≤ '9' then some (c.toNat - 48 + 26)
  else none

/-- The digit of a value. -/
def digit (n : Nat) : Char := if n < 26 then Char.ofNat (n + 97) else Char.ofNat (n - 26 + 48)

/-! ### Reading -/

/-- What has been read. -/
structure Reading where
  text : List Nat
  /-- The code point of the last number. -/
  code : Nat := 128
  /-- The place behind the character of the last number. -/
  place : Nat := 0
  bias : Nat := 72
  /-- The number that is being read, and the weight and index of its next digit. -/
  number : Nat := 0
  weight : Nat := 1
  k : Nat := 36
  isFirst : Bool := true

/-- All numbers stay below this one. -/
def bound : Nat := UInt32.size

/-- Whether a number is a code point that a text can hold. -/
def isScalar (n : Nat) : Bool := n < 0xD800 || (0xDFFF < n && n < 0x110000)

/-- Reads a digit. -/
def Reading.step (r : Reading) (c : Char) : Option Reading := do
  let value ← digitValue? c
  let number := r.number + value * r.weight
  let t := threshold r.k r.bias
  if bound ≤ r.place + number then none
  else if t ≤ value then
    let weight := r.weight * (base - t)
    if bound ≤ weight then none else some { r with number, weight, k := r.k + base }
  else
    let count := r.text.length + 1
    let code := r.code + (r.place + number) / count
    let place := (r.place + number) % count
    if isScalar code then
      some {
        text := r.text.take place ++ code :: r.text.drop place
        code, place := place + 1, bias := adapt number count r.isFirst, isFirst := false }
    else none

/-- The text that is written in some ASCII characters. -/
def decode? (written : List Char) : Option (List Nat) := do
  let digits := (written.reverse.takeWhile (· != '-')).reverse
  let plain := written.take (written.length - digits.length - 1)
  let digits := if plain.isEmpty then written else digits
  if plain.all (·.toNat < 128) then
    let start : Reading := { text := plain.map Char.toNat }
    let r ← digits.foldlM Reading.step start
    if r.k = 36 then some r.text else none
  else none

/-! ### Writing -/

/-- The digits of a number. -/
def writeNumber (n k bias : Nat) : List Char :=
  let t := threshold k bias
  if n < t then [digit n]
  else digit (t + (n - t) % (base - t)) :: writeNumber ((n - t) / (base - t)) (k + base) bias
termination_by n
decreasing_by
  have := threshold_pos k bias
  have := Nat.div_le_self (n - threshold k bias) (base - threshold k bias)
  omega

/-- What has been written. -/
structure Writing where
  out : List Char := []
  /-- How far the next character is from the last one. -/
  delta : Nat := 0
  bias : Nat := 72
  /-- How many characters are written. -/
  count : Nat
  isFirst : Bool := true

/-- Passes a character of the text while the characters `code` are written. -/
def Writing.step (code : Nat) (w : Writing) (n : Nat) : Writing :=
  if n < code then { w with delta := w.delta + 1 }
  else if n = code then
    { out := w.out ++ writeNumber w.delta 36 w.bias
      delta := 0
      bias := adapt w.delta (w.count + 1) w.isFirst
      count := w.count + 1
      isFirst := false }
  else w

/-- Writes all characters `code`, when those below `last` are written. -/
def Writing.pass (text : List Nat) (w : Writing × Nat) (code : Nat) : Writing × Nat :=
  let start := { w.1 with delta := w.1.delta + (code - w.2) * (w.1.count + 1) }
  let done := text.foldl (Writing.step code) start
  ({ done with delta := done.delta + 1 }, code + 1)

/-- A text in ASCII characters. -/
def encode (text : List Nat) : List Char :=
  let plain := text.filter (· < 128)
  let others := ((text.filter (128 ≤ ·)).mergeSort (· ≤ ·)).eraseReps
  let start : Writing := { count := plain.length }
  let (done, _) := others.foldl (Writing.pass text) (start, 128)
  (plain.map Char.ofNat) ++ (if plain.isEmpty then [] else ['-']) ++ done.out

end TicketGrant.Url.Idna.Punycode
