/-!
# White space and control characters

Scope strings are cut at white space and scope delimiters must not be control characters, so both
classes are the Unicode ones and not their ASCII parts. `words` and `pieces` cut a text at its
separators: `words` keeps the maximal runs between them, `pieces` every piece, empty ones included.
-/
namespace TicketGrant.Text

/-- The characters with the Unicode property `White_Space`. -/
def isBlank (c : Char) : Bool :=
  let n := c.toNat
  (9 ≤ n && n ≤ 13) || n == 0x20 || n == 0x85 || n == 0xA0 || n == 0x1680 ||
    (0x2000 ≤ n && n ≤ 0x200A) || n == 0x2028 || n == 0x2029 || n == 0x202F || n == 0x205F ||
    n == 0x3000

/-- The characters of the general category `Cc`. -/
def isControl (c : Char) : Bool :=
  let n := c.toNat
  n < 0x20 || (0x7F ≤ n && n ≤ 0x9F)

/-- ASCII white space is white space. -/
theorem isBlank_of_isWhitespace {c : Char} (h : c.isWhitespace = true) : isBlank c = true := by
  simp only [Char.isWhitespace, Bool.or_eq_true, decide_eq_true_eq] at h
  rcases h with ((rfl | rfl) | rfl) | rfl <;> decide

/-- The maximal runs of characters that are no separators, from left to right; `run` is the run
that is being read, last character first. -/
def wordsFrom (separates : Char → Bool) (run : List Char) : List Char → List (List Char)
  | [] => if run.isEmpty then [] else [run.reverse]
  | c :: rest =>
    if separates c then
      if run.isEmpty then wordsFrom separates [] rest
      else run.reverse :: wordsFrom separates [] rest
    else wordsFrom separates (c :: run) rest

/-- The maximal runs of characters that are no separators. -/
def words (separates : Char → Bool) (text : List Char) : List (List Char) :=
  wordsFrom separates [] text

/-- The pieces between separators, empty ones included: one more piece than separators. -/
def pieces (separates : Char → Bool) (text : List Char) : List (List Char) :=
  let step := fun (c : Char) (acc : List Char × List (List Char)) =>
    if separates c then ([], acc.1 :: acc.2) else (c :: acc.1, acc.2)
  let (first, rest) := text.foldr step ([], [])
  first :: rest

end TicketGrant.Text
