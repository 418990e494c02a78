import TicketGrant.Encoding.Percent
import TicketGrant.Http.ResponseHead

/-!
# Bodies in chunks

A body of unknown length is sent in chunks. Before each chunk a line tells its size in hexadecimal,
and perhaps extensions after a semicolon; after it the line ends. A chunk of size zero is the last;
header fields and an empty line follow it. Here every line ends with carriage return and line feed.
Extensions and late header fields are checked and then forgotten.
-/
namespace TicketGrant.Http.Chunked

/-- All extensions of a body together have fewer bytes. -/
def extensionBound : Nat := 16384

/-- The header fields after the last chunk have fewer bytes, their end included. -/
def trailerBound : Nat := 16384

/-- After the last chunk there are at most so many lines with header fields. -/
def trailerLines : Nat := 100

/-- The number of some hexadecimal digits. -/
def hexNumber (digits : Bytes) : Nat :=
  digits.foldl (fun n b => n * 16 + (Percent.hexValue? b).getD 0) 0

/-- What follows carriage return and line feed. -/
def strictLineEnd? : Bytes → Option Bytes
  | 0x0D :: 0x0A :: rest => some rest
  | _ => none

theorem length_lt_of_strictLineEnd? {text rest : Bytes} (h : strictLineEnd? text = some rest) :
    rest.length < text.length := by
  unfold strictLineEnd? at h
  split at h
  · cases h
    simp only [List.length_cons]
    omega
  · cases h

/-- The line before a chunk. -/
structure SizeLine where
  /-- The size of the chunk. -/
  size : Nat
  /-- The length of its extensions. -/
  extensions : Nat
  /-- What follows the line. -/
  rest : Bytes

/-- Whether a byte is a hexadecimal digit. -/
def isDigit (b : UInt8) : Bool := (Percent.hexValue? b).isSome

/-- Whether a byte may stand in an extension. -/
def inExtension (b : UInt8) : Bool := b != 0x0D && b != 0x0A

/-- Reads the line before a chunk. -/
def SizeLine.read? (text : Bytes) : Option SizeLine :=
  let digits := text.takeWhile isDigit
  let after := (text.dropWhile isDigit).dropWhile isGap
  if digits.isEmpty then none
  else
    match after with
    | 0x3B :: extensions =>
      (strictLineEnd? (extensions.dropWhile inExtension)).map fun rest =>
        ⟨hexNumber digits, (extensions.takeWhile inExtension).length, rest⟩
    | _ => (strictLineEnd? after).map fun rest => ⟨hexNumber digits, 0, rest⟩

theorem SizeLine.length_rest_lt_of_read? {text : Bytes} {l : SizeLine} (h : read? text = some l) :
    l.rest.length < text.length := by
  simp only [read?] at h
  split at h
  · simp at h
  · have h1 := (List.dropWhile_sublist isDigit (l := text)).length_le
    have h2 := (List.dropWhile_sublist isGap (l := text.dropWhile isDigit)).length_le
    split at h
    · rename_i extensions hext
      obtain ⟨_, hl, rfl⟩ := Option.map_eq_some_iff.1 h
      have h3 := length_lt_of_strictLineEnd? hl
      have h4 := (List.dropWhile_sublist inExtension (l := extensions)).length_le
      rw [hext, List.length_cons] at h2
      simp only
      omega
    · obtain ⟨_, hl, rfl⟩ := Option.map_eq_some_iff.1 h
      have h3 := length_lt_of_strictLineEnd? hl
      simp only
      omega

/-- The lines up to an empty one, and how many stand before it. -/
def trailer? (atStart : Bool) : Bytes → Option (Nat × Bytes)
  | 0x0D :: 0x0A :: rest =>
    if atStart then some (0, [0x0D, 0x0A])
    else (trailer? true rest).map fun (n, lines) => (n + 1, 0x0D :: 0x0A :: lines)
  | b :: rest =>
    if b = 0x0D then none else (trailer? false rest).map fun (n, lines) => (n, b :: lines)
  | [] => none

/-- Whether what follows the last chunk is as it should be. -/
def endsWell (text : Bytes) : Bool :=
  match trailer? true text with
  | none => false
  | some (n, lines) =>
    n ≤ trailerLines && lines.length < trailerBound && (ResponseHead.fields? n lines).isSome

/-- The body whose chunks follow, if it is whole; `extensions` bytes of extensions were read. -/
def decodeFrom? (extensions : Nat) (text : Bytes) : Option Bytes :=
  match _ : SizeLine.read? text with
  | none => none
  | some ⟨size, more, rest⟩ =>
    if extensionBound ≤ extensions + more then none
    else if size = 0 then if endsWell rest then some [] else none
    else if rest.length < size then none
    else
      match _ : strictLineEnd? (rest.drop size) with
      | none => none
      | some after => (decodeFrom? (extensions + more) after).map (rest.take size ++ ·)
termination_by text.length
decreasing_by
  have h1 := SizeLine.length_rest_lt_of_read? ‹SizeLine.read? text = some _›
  have h2 := length_lt_of_strictLineEnd? ‹strictLineEnd? _ = some _›
  rw [List.length_drop] at h2
  simp only at h1
  omega

/-- The body at the start of a text, if it is whole. -/
def decode? (text : Bytes) : Option Bytes := decodeFrom? 0 text

end TicketGrant.Http.Chunked
