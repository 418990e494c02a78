import TicketGrant.Encoding.Percent

/-!
# Form bodies (`application/x-www-form-urlencoded`)

A body is a list of named values: `=` between name and value, `&` between entries. Every byte
outside letters, digits and `*-._` is escaped and a space becomes `+`, so neither separator can
occur inside a name or a value.
-/
namespace TicketGrant.Form

/-- The bytes that are written as they are. -/
def isPlain (b : UInt8) : Bool :=
  (0x30 ≤ b && b ≤ 0x39) || (0x41 ≤ b && b ≤ 0x5A) || (0x61 ≤ b && b ≤ 0x7A) ||
    b == 0x2A || b == 0x2D || b == 0x2E || b == 0x5F

/-- The written form of a byte. -/
def encodeByte (b : UInt8) : List Char :=
  if isPlain b then [Char.ofNat b.toNat]
  else if b = 0x20 then ['+']
  else Percent.escape b

/-- The written form of a name or a value. -/
def encodePart (part : String) : List Char := (Utf8.encode part).flatMap encodeByte

/-- The written form of an entry. -/
def encodeEntry (entry : String × String) : List Char :=
  encodePart entry.1 ++ '=' :: encodePart entry.2

/-- The written form of a list of entries. -/
def encode (entries : List (String × String)) : String :=
  String.ofList (List.intercalate ['&'] (entries.map encodeEntry))

/-- The text of a written name or value. -/
def decodePart (bytes : Bytes) : String :=
  Utf8.decodeLossy (Percent.decode (bytes.map fun b => if b = 0x2B then 0x20 else b))

/-- The pieces of a byte sequence between the separators. -/
def split (separator : UInt8) (bytes : Bytes) : List Bytes :=
  let step := fun (b : UInt8) (acc : Bytes × List Bytes) =>
    if b = separator then ([], acc.1 :: acc.2) else (b :: acc.1, acc.2)
  let (first, rest) := bytes.foldr step ([], [])
  first :: rest

/-- The entry of a piece: the name ends at the first `=`. -/
def decodeEntry (piece : Bytes) : String × String :=
  (decodePart (piece.takeWhile (· != 0x3D)), decodePart ((piece.dropWhile (· != 0x3D)).drop 1))

/-- The entries of a body; empty pieces are none. -/
def decode (body : Bytes) : List (String × String) :=
  ((split 0x26 body).filter (!·.isEmpty)).map decodeEntry

end TicketGrant.Form
