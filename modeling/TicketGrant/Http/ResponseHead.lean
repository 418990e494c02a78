import TicketGrant.Http.Header
import TicketGrant.Http.Status

/-!
# Heads of responses

On a connection a response begins with its head: a line with version and status, a line for each
header field, and an empty line. A line ends with a line feed; a carriage return may stand before
it. `render` writes a head, `read?` reads one and tells what follows it, which is always less than
the whole text (`length_lt_of_read?`). A head with a provisional status announces another head.
-/
namespace TicketGrant.Http

/-- What comes before the body of a response. -/
structure ResponseHead where
  /-- Whether the version is 1.1; otherwise it is 1.0. -/
  isCurrent : Bool
  status : Status
  headers : List Header

namespace ResponseHead

/-- A head has at most this many fields. -/
def maxFields : Nat := 100

/-- The name of a field has at most this many bytes. -/
def maxName : Nat := 65535

/-- A head has at most this many bytes. -/
def maxSize : Nat := 417792

/-! ### Writing -/

/-- A line and its end. -/
def line (bytes : Bytes) : Bytes := bytes ++ [0x0D, 0x0A]

/-- The line of a header field. -/
def renderField (h : Header) : Bytes := line (Utf8.encode (h.name ++ ": ") ++ h.value)

/-- A head as it is written. -/
def render (head : ResponseHead) : Bytes :=
  let version := if head.isCurrent then "HTTP/1.1 " else "HTTP/1.0 "
  line (Utf8.encode (version ++ toString head.status.code ++ " ")) ++
    head.headers.flatMap renderField ++ line []

/-! ### Reading -/

/-- What follows the end of a line. -/
def lineEnd? : Bytes → Option Bytes
  | 0x0D :: 0x0A :: rest => some rest
  | 0x0A :: rest => some rest
  | _ => none

theorem length_lt_of_lineEnd? {text rest : Bytes} (h : lineEnd? text = some rest) :
    rest.length < text.length := by
  unfold lineEnd? at h
  split at h
  · cases h
    simp only [List.length_cons]
    omega
  · cases h
    simp only [List.length_cons]
    omega
  · cases h

/-- A text without the empty lines at its start. -/
def skipEmptyLines : Bytes → Bytes
  | 0x0D :: 0x0A :: rest => skipEmptyLines rest
  | 0x0A :: rest => skipEmptyLines rest
  | text => text

theorem length_skipEmptyLines_le (text : Bytes) : (skipEmptyLines text).length ≤ text.length := by
  fun_induction skipEmptyLines text with
  | case1 rest ih => exact Nat.le_add_right_of_le (Nat.le_add_right_of_le ih)
  | case2 rest ih => exact Nat.le_add_right_of_le ih
  | case3 => exact Nat.le_refl _

/-- The status that three digits make; there is none below 100. -/
def status? (digits : Bytes) : Option Status :=
  let code := digits.foldl (fun n b => n * 10 + (b.toNat - 0x30)) 0
  if digits.length = 3 ∧ digits.all (fun b => 0x30 ≤ b && b ≤ 0x39) ∧ 100 ≤ code then some ⟨code⟩
  else none

/-- Whether a version is the current one; two versions are known. -/
def isCurrent? (version : Bytes) : Option Bool :=
  if version = Utf8.encode "HTTP/1.1 " then some true
  else if version = Utf8.encode "HTTP/1.0 " then some false
  else none

/-- Version and status in the first line, and what follows the line. After the status a space and a
reason may stand, which is not looked at. -/
def statusLine? (text : Bytes) : Option (Bool × Status × Bytes) := do
  let isCurrent ← isCurrent? (text.take 9)
  let status ← status? ((text.drop 9).take 3)
  let rest := text.drop 12
  if (rest.takeWhile inValue).head?.all (· == 0x20) then
    (lineEnd? (rest.dropWhile inValue)).map fun lines => (isCurrent, status, lines)
  else none

theorem length_lt_of_statusLine? {text lines : Bytes} {isCurrent : Bool} {status : Status}
    (h : statusLine? text = some (isCurrent, status, lines)) : lines.length < text.length := by
  simp only [statusLine?, Option.bind_eq_bind, Option.bind_eq_some_iff] at h
  obtain ⟨_, _, _, _, h⟩ := h
  split at h
  · obtain ⟨_, hl, hr⟩ := Option.map_eq_some_iff.1 h
    simp only [Prod.mk.injEq] at hr
    have h1 := length_lt_of_lineEnd? hl
    have h2 := (List.dropWhile_sublist inValue (l := text.drop 12)).length_le
    rw [List.length_drop] at h2
    rw [← hr.2.2]
    omega
  · simp at h

/-- The header field in a line, and what follows the line. -/
def field? (text : Bytes) : Option (Header × Bytes) :=
  let name := text.takeWhile inName
  match text.dropWhile inName with
  | 0x3A :: after =>
    if name.isEmpty || maxName < name.length then none
    else (lineEnd? (after.dropWhile inValue)).map fun rest =>
      (⟨asciiText name, trimmed (after.takeWhile inValue)⟩, rest)
  | _ => none

theorem length_lt_of_field? {text rest : Bytes} {h : Header} (hf : field? text = some (h, rest)) :
    rest.length < text.length := by
  simp only [field?] at hf
  split at hf
  · rename_i after hafter
    split at hf
    · simp at hf
    · obtain ⟨_, hl, hr⟩ := Option.map_eq_some_iff.1 hf
      have h1 := length_lt_of_lineEnd? hl
      have h2 := (List.dropWhile_sublist inValue (l := after)).length_le
      have h3 := (List.dropWhile_sublist inName (l := text)).length_le
      simp only [Prod.mk.injEq] at hr
      rw [hafter, List.length_cons] at h3
      rw [← hr.2]
      omega
  · simp at hf

/-- The header fields before an empty line, at most `limit`, and what follows it. -/
def fields? (limit : Nat) (text : Bytes) : Option (List Header × Bytes) :=
  match lineEnd? text with
  | some rest => some ([], rest)
  | none =>
    match limit with
    | 0 => none
    | limit + 1 => do
      let (field, rest) ← field? text
      let (fields, rest) ← fields? limit rest
      some (field :: fields, rest)

theorem length_lt_of_fields? {limit : Nat} {text rest : Bytes} {fields : List Header}
    (h : fields? limit text = some (fields, rest)) : rest.length < text.length := by
  induction limit generalizing text rest fields with
  | zero =>
    unfold fields? at h
    split at h
    · rename_i hl
      simp only [Option.some.injEq, Prod.mk.injEq] at h
      exact h.2 ▸ length_lt_of_lineEnd? hl
    · simp at h
  | succ limit ih =>
    unfold fields? at h
    split at h
    · rename_i hl
      simp only [Option.some.injEq, Prod.mk.injEq] at h
      exact h.2 ▸ length_lt_of_lineEnd? hl
    · simp only [Option.bind_eq_bind, Option.bind_eq_some_iff] at h
      obtain ⟨⟨_, lines⟩, hf, ⟨_, _⟩, hr, h⟩ := h
      simp only [Option.some.injEq, Prod.mk.injEq] at h
      have h1 := length_lt_of_field? hf
      have h2 := ih hr
      rw [← h.2]
      exact Nat.lt_trans h2 h1

/-- The head at the start of a text, and what follows it. -/
def read? (text : Bytes) : Option (ResponseHead × Bytes) := do
  let (isCurrent, status, lines) ← statusLine? (skipEmptyLines text)
  let (headers, rest) ← fields? maxFields lines
  if text.length ≤ rest.length + maxSize then some (⟨isCurrent, status, headers⟩, rest) else none

theorem length_lt_of_read? {text rest : Bytes} {head : ResponseHead}
    (h : read? text = some (head, rest)) : rest.length < text.length := by
  simp only [read?, Option.bind_eq_bind, Option.bind_eq_some_iff] at h
  obtain ⟨⟨_, _, _⟩, hs, ⟨_, _⟩, hf, h⟩ := h
  split at h
  · simp only [Option.some.injEq, Prod.mk.injEq] at h
    have h1 := length_lt_of_statusLine? hs
    have h2 := length_lt_of_fields? hf
    have h3 := length_skipEmptyLines_le text
    rw [← h.2]
    exact Nat.lt_of_lt_of_le (Nat.lt_trans h2 h1) h3
  · simp at h

/-- The first head whose status is not provisional, and what follows it. -/
def final? (text : Bytes) : Option (ResponseHead × Bytes) :=
  match _ : read? text with
  | none => none
  | some (head, rest) => if head.status.isProvisional then final? rest else some (head, rest)
termination_by text.length
decreasing_by exact length_lt_of_read? ‹_›

end ResponseHead
end TicketGrant.Http
