/-!
# UTF-8

Texts go out as UTF-8 and come back from bytes that a server may have spoiled. One machine reads
bytes: between characters it waits for a first byte, inside one it knows how many bytes are still
owed and the range the next must be in. A byte outside that range ends the broken character and
is read again as a first byte, so each maximal broken part counts once. `decode?` refuses broken
parts; `decodeLossy` writes U+FFFD for each.
-/
namespace TicketGrant

/-- A sequence of bytes. -/
abbrev Bytes := List UInt8

namespace Utf8

/-- The bytes of a text. -/
def encode (text : String) : Bytes := text.toList.flatMap String.utf8EncodeChar

/-- Where the reading stands between two bytes. -/
inductive State where
  /-- Between characters. -/
  | start
  /-- Inside a character: bytes owed, the range of the next one, and the bits read so far. -/
  | inside (owed : Nat) (low high : UInt8) (bits : Nat)

/-- What has been read: characters, and `none` for a broken part, the last one first. -/
structure Scan where
  out : List (Option Char)
  state : State

/-- Reads the first byte of a character. -/
def first (out : List (Option Char)) (b : UInt8) : Scan :=
  if b < 0x80 then ⟨some (Char.ofNat b.toNat) :: out, .start⟩
  else if b < 0xC2 then ⟨none :: out, .start⟩
  else if b < 0xE0 then ⟨out, .inside 1 0x80 0xBF (b.toNat % 32)⟩
  else if b = 0xE0 then ⟨out, .inside 2 0xA0 0xBF 0⟩
  else if b = 0xED then ⟨out, .inside 2 0x80 0x9F 13⟩
  else if b < 0xF0 then ⟨out, .inside 2 0x80 0xBF (b.toNat % 16)⟩
  else if b = 0xF0 then ⟨out, .inside 3 0x90 0xBF 0⟩
  else if b < 0xF4 then ⟨out, .inside 3 0x80 0xBF (b.toNat % 8)⟩
  else if b = 0xF4 then ⟨out, .inside 3 0x80 0x8F 4⟩
  else ⟨none :: out, .start⟩

/-- Reads one byte. -/
def step (scan : Scan) (b : UInt8) : Scan :=
  match scan.state with
  | .start => first scan.out b
  | .inside owed low high bits =>
    if low ≤ b ∧ b ≤ high then
      let bits := bits * 64 + b.toNat % 64
      if owed ≤ 1 then ⟨some (Char.ofNat bits) :: scan.out, .start⟩
      else ⟨scan.out, .inside (owed - 1) 0x80 0xBF bits⟩
    else first (none :: scan.out) b

/-- The characters and broken parts of a byte sequence. -/
def parts (bytes : Bytes) : List (Option Char) :=
  let scan := bytes.foldl step ⟨[], .start⟩
  match scan.state with
  | .start => scan.out.reverse
  | .inside .. => (none :: scan.out).reverse

/-- The text of a byte sequence, unless a part of it is broken. -/
def decode? (bytes : Bytes) : Option String :=
  let read := parts bytes
  if read.all Option.isSome then some (String.ofList (read.filterMap id)) else none

/-- The text of a byte sequence, with U+FFFD for each broken part. -/
def decodeLossy (bytes : Bytes) : String :=
  String.ofList ((parts bytes).map (·.getD '\ufffd'))

end Utf8
end TicketGrant
