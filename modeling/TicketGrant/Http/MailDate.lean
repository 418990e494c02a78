import TicketGrant.Time

/-!
# Mail dates

Dates as mail writes them: `Fri, 31 Dec 9998 23:59:59 GMT`. The day of the week may be missing and
is not compared with the date; the year may have two digits, and seconds may be left out. Spaces,
tabs and comments in parentheses may stand between the parts, except after a year of four digits,
where only spaces and tabs may. The zone is a name, a letter or an offset in hours and minutes;
after a letter or `UT` nothing may follow. A sixtieth second is accepted at the end of a month.
-/
namespace TicketGrant.Http.MailDate

/-- What is left to read. -/
abbrev Reader := StateT (List Char) Option

/-- As many comments may be open at once. -/
def maxDepth : Nat := 31

/-- Leaves out blanks and comments; `depth` comments are open. An open comment has no end. -/
def skip (depth : Nat) : List Char → Option (List Char)
  | [] => if depth = 0 then some [] else none
  | c :: rest =>
    if c = '(' then if depth < maxDepth then skip (depth + 1) rest else none
    else match depth with
      | 0 => if c = ' ' ∨ c = '\t' then skip 0 rest else some (c :: rest)
      | outer + 1 =>
        if c = ')' then skip outer rest
        else if c = '\\' then
          match rest with
          | [] => none
          | _ :: rest => skip (outer + 1) rest
        else skip (outer + 1) rest

/-- Blanks and comments that may be missing. -/
def gap : Reader Unit := fun text => (skip 0 text).map ((), ·)

/-- Blanks and comments that must be there. -/
def separator : Reader Unit := fun text => do
  let rest ← skip 0 text
  if rest.length < text.length then some ((), rest) else none

/-- Blanks without comments that must be there. -/
def blanks : Reader Unit := fun text =>
  let rest := text.dropWhile fun c => c == ' ' || c == '\t'
  if rest.length < text.length then some ((), rest) else none

/-- A given character. -/
def char (c : Char) : Reader Unit := fun text =>
  match text with
  | d :: rest => if c = d then some ((), rest) else none
  | [] => none

/-- The number of some digits. -/
def number (digits : List Char) : Nat := digits.foldl (fun n c => n * 10 + (c.toNat - 48)) 0

/-- Exactly `n` digits. -/
def digits (n : Nat) : Reader Nat := fun text =>
  let taken := text.take n
  if taken.length = n ∧ taken.all Char.isDigit then some (number taken, text.drop n) else none

/-- One of several readings, the first that is possible. -/
def oneOf {α : Type} (readers : List (Reader α)) : Reader α := fun text =>
  readers.findSome? (· text)

/-- A word in any case, with what it stands for. -/
def word {α : Type} (entry : String × α) : Reader α := fun text =>
  let taken := text.take entry.1.length
  if taken.map Char.toLower = entry.1.toList then some (entry.2, text.drop entry.1.length)
  else none

/-- The days of the week. -/
def weekdays : List String := ["mon", "tue", "wed", "thu", "fri", "sat", "sun"]

/-- The months, with their numbers. -/
def months : List (String × Nat) :=
  [("jan", 1), ("feb", 2), ("mar", 3), ("apr", 4), ("may", 5), ("jun", 6), ("jul", 7), ("aug", 8),
   ("sep", 9), ("oct", 10), ("nov", 11), ("dec", 12)]

/-- The named zones, with their hours. -/
def zones : List (String × Int) :=
  [("gmt", 0), ("est", -5), ("edt", -4), ("cst", -6), ("cdt", -5), ("mst", -7),
   ("mdt", -6), ("pst", -8), ("pdt", -7)]

/-- A day of the week and its comma. -/
def weekday : Reader Unit := do
  oneOf (weekdays.map fun name => word (name, ()))
  char ','
  gap

/-- A day of the week, if the text starts with one. -/
def maybeWeekday : Reader Unit := fun text =>
  if weekdays.contains (String.ofList ((text.take 3).map Char.toLower)) then weekday text
  else some ((), text)

/-- A year and the gap behind it. -/
def year : Reader Int := fun text =>
  match digits 4 text with
  | some (n, rest) =>
    if 1900 ≤ n then (blanks rest).map fun r => ((n : Int), r.2) else none
  | none => (do
      let n ← digits 2
      separator
      pure (if n < 50 then (n : Int) + 2000 else (n : Int) + 1900) : Reader Int) text

/-- The seconds, if there are any. -/
def seconds : Reader Nat := fun text =>
  match (do gap; char ':' : Reader Unit) text with
  | some (_, rest) => (do gap; digits 2 : Reader Nat) rest
  | none => some (0, text)

/-- A zone that ends the text: `UT` or a letter. There is no zone J. -/
def lastZone : Reader Int := fun text =>
  let letters := text.map Char.toLower
  let isLetter := letters.length = 1 ∧ letters.all fun c => c.isAlpha && c != 'j'
  if letters = ['u', 't'] ∨ isLetter then some (0, []) else none

/-- An offset in seconds. -/
def offset : Reader Int := do
  let negative ← oneOf [do char '+'; pure false, do char '-'; pure true]
  let hours ← digits 2
  let minutes ← digits 2
  if 25 < hours ∨ 59 < minutes then failure
  else
    let size : Int := hours * 3600 + minutes * 60
    pure (if negative ∧ hours ≠ 0 then -size else size)

/-- The seconds by which a zone is ahead. -/
def zone : Reader Int :=
  oneOf [do return (← oneOf (zones.map word)) * 3600, lastZone, offset]

/-- Whether a year has a 29 February. -/
def isLeap (year : Int) : Bool := year % 4 == 0 && (year % 100 != 0 || year % 400 == 0)

/-- The days of a month. -/
def monthDays (year : Int) (month : Nat) : Nat :=
  if month = 2 then if isLeap year then 29 else 28
  else if [4, 6, 9, 11].contains month then 30
  else 31

/-- The days from the start of 1970 to the start of a year. -/
def daysBefore (year : Int) : Int :=
  let y := year - 1
  y * 365 + y / 4 - y / 100 + y / 400 - 719162

/-- The days from the start of 1970 to a date. -/
def dayNumber (year : Int) (month day : Nat) : Int :=
  (List.range (month - 1)).foldl (fun (days : Int) m => days + monthDays year (m + 1))
      (daysBefore year) +
    (day - 1 : Int)

/-- A date and a time of day, ahead by a zone's offset. -/
structure Moment where
  year : Int
  month : Nat
  day : Nat
  hour : Nat
  minute : Nat
  second : Nat
  ahead : Int

namespace Moment

/-- The seconds since the start of 1970, a sixtieth second taken for the one before it. -/
def unixSeconds (m : Moment) : Int :=
  dayNumber m.year m.month m.day * 86400 + m.hour * 3600 + m.minute * 60 + min m.second 59 -
    m.ahead

/-- Whether the moment is the last second of a month. An offset is less than two days, so the month
is the written one or the one before it. -/
def endsMonth (m : Moment) : Bool :=
  let next := m.unixSeconds + 1
  next % 86400 == 0 &&
    (next / 86400 == dayNumber m.year m.month 1 || next / 86400 == dayNumber m.year (m.month + 1) 1)

/-- Whether date and time exist. -/
def isValid (m : Moment) : Bool :=
  1 ≤ m.day && m.day ≤ monthDays m.year m.month && m.hour < 24 && m.minute < 60 &&
    (m.second < 60 || (m.second == 60 && m.endsMonth))

/-- The nanoseconds since the start of 1970; a sixtieth second is the end of the one before it. -/
def nanos (m : Moment) : Int :=
  m.unixSeconds * 1000000000 + if m.second = 60 then 999999999 else 0

end Moment

/-- A whole date. -/
def moment : Reader Moment := do
  gap
  maybeWeekday
  let day ← oneOf [digits 2, digits 1]
  separator
  let month ← oneOf (months.map word)
  separator
  let year ← year
  let hour ← digits 2
  gap
  char ':'
  gap
  let minute ← digits 2
  let second ← seconds
  separator
  let ahead ← zone
  gap
  pure { year, month, day, hour, minute, second, ahead }

/-- The nanoseconds from the start of 1970 to a written date. -/
def nanos? (text : String) : Option Int := do
  let (m, rest) ← moment text.toList
  if rest.isEmpty ∧ m.isValid then some m.nanos else none

end TicketGrant.Http.MailDate
