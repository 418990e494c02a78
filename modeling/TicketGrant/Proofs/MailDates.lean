import Mathlib.Data.Nat.Digits.Defs
import TicketGrant.Http.MailDate

/-!
# What is read as a mail date

A mail date is a moment of the years 1900 to 9999, give or take the offset of its zone
(`nanos?_bounds`). Digits alone are no date, and nothing behind a plus sign is one
(`moment_of_digits`, `moment_of_plus`), so that a number is told from a date.
-/
namespace TicketGrant.Http.MailDate

/-! ### Readers one after another -/

section Readers
variable {α β : Type} {r : Reader α} {f : α → Reader β} {text mid rest : List Char} {a : α} {b : β}

theorem bind_apply : (r >>= f) text = (r text).bind fun read => f read.1 read.2 := rfl

theorem bind_eq_some_iff :
    (r >>= f) text = some (b, rest) ↔
      ∃ a mid, r text = some (a, mid) ∧ f a mid = some (b, rest) := by
  rw [bind_apply, Option.bind_eq_some_iff]
  exact Prod.exists

theorem bind_of_some (h : r text = some (a, mid)) : (r >>= f) text = f a mid := by
  rw [bind_apply, h, Option.bind_some]

theorem bind_of_none (h : r text = none) : (r >>= f) text = none := by
  rw [bind_apply, h, Option.bind_none]

theorem exists_of_oneOf {readers : List (Reader α)} (h : oneOf readers text = some (a, rest)) :
    ∃ r ∈ readers, r text = some (a, rest) :=
  List.exists_of_findSome?_eq_some h

theorem oneOf_eq_none {readers : List (Reader α)} (h : ∀ r ∈ readers, r text = none) :
    oneOf readers text = none :=
  List.findSome?_eq_none_iff.mpr h

theorem mem_of_oneOf_words {entries : List (String × α)}
    (h : oneOf (entries.map word) text = some (a, rest)) : a ∈ entries.map (·.2) := by
  obtain ⟨_, hmem, hread⟩ := exists_of_oneOf h
  obtain ⟨entry, hentry, rfl⟩ := List.mem_map.mp hmem
  unfold word at hread
  extract_lets taken at hread
  split at hread
  · cases hread
    exact List.mem_map.mpr ⟨entry, hentry, rfl⟩
  · cases hread

end Readers

/-! ### Numbers -/

/-- Digits as a number, in the usual sense. -/
theorem number_eq_ofDigits (digits : List Char) :
    number digits = Nat.ofDigits 10 (digits.reverse.map fun c => c.toNat - 48) := by
  rw [number, Nat.ofDigits_eq_foldr, List.foldr_map, List.foldr_reverse]
  congr 1
  funext n c
  simp only [Nat.cast_id]
  omega

theorem exists_of_digits {n value : Nat} {text rest : List Char}
    (h : digits n text = some (value, rest)) : rest = text.drop n ∧ value < 10 ^ n := by
  unfold digits at h
  extract_lets taken at h
  split at h
  · rename_i htaken
    cases h
    refine ⟨rfl, ?_⟩
    rw [number_eq_ofDigits, ← htaken.1]
    have hlt : ∀ d ∈ taken.reverse.map fun c => c.toNat - 48, d < 10 := by
      simp only [List.mem_map, List.mem_reverse]
      rintro _ ⟨c, hc, rfl⟩
      have hdigit : 48 ≤ c.toNat ∧ c.toNat ≤ 57 :=
        Char.isDigit_iff_toNat.mp (List.all_eq_true.mp htaken.2 c hc)
      omega
    simpa using Nat.ofDigits_lt_base_pow_length (by decide) hlt
  · cases h

/-! ### Years, months and zones -/

variable {text rest : List Char}

theorem year_bounds {y : Int} (h : year text = some (y, rest)) : 1900 ≤ y ∧ y ≤ 9999 := by
  unfold year at h
  split at h
  · rename_i n rest' hdigits
    have hlt := (exists_of_digits hdigits).2
    split at h
    · cases hblanks : blanks rest' with
      | none => simp [hblanks] at h
      | some read =>
        simp only [hblanks, Option.map_some] at h
        cases h
        omega
    · cases h
  · obtain ⟨n, mid, hdigits, h⟩ := bind_eq_some_iff.mp h
    have hlt := (exists_of_digits hdigits).2
    obtain ⟨_, _, -, h⟩ := bind_eq_some_iff.mp h
    cases h
    split <;> omega

theorem month_bounds {month : Nat} (h : oneOf (months.map word) text = some (month, rest)) :
    1 ≤ month ∧ month ≤ 12 := by
  have hall : ∀ n ∈ months.map (·.2), 1 ≤ n ∧ n ≤ 12 := by decide
  exact hall month (mem_of_oneOf_words h)

theorem offset_bounds {ahead : Int} (h : offset text = some (ahead, rest)) :
    -93540 ≤ ahead ∧ ahead ≤ 93540 := by
  obtain ⟨negative, _, -, h⟩ := bind_eq_some_iff.mp h
  obtain ⟨hours, _, -, h⟩ := bind_eq_some_iff.mp h
  obtain ⟨minutes, _, -, h⟩ := bind_eq_some_iff.mp h
  split at h
  · cases h
  · cases h
    split <;> omega

theorem zone_bounds {ahead : Int} (h : zone text = some (ahead, rest)) :
    -93540 ≤ ahead ∧ ahead ≤ 93540 := by
  obtain ⟨r, hr, hread⟩ := exists_of_oneOf h
  rcases List.mem_cons.mp hr with rfl | hr
  · obtain ⟨hours, _, hzone, hread⟩ := bind_eq_some_iff.mp hread
    have hall : ∀ n ∈ zones.map (·.2), -8 ≤ n ∧ n ≤ 0 := by decide
    have hhours := hall hours (mem_of_oneOf_words hzone)
    cases hread
    omega
  rcases List.mem_cons.mp hr with rfl | hr
  · unfold lastZone at hread
    extract_lets letters isLetter at hread
    split at hread
    · cases hread
      omega
    · cases hread
  · obtain rfl := List.mem_singleton.mp hr
    exact offset_bounds hread

/-! ### Moments -/

/-- A moment that can be written. -/
structure Moment.InRange (m : Moment) : Prop where
  year : 1900 ≤ m.year ∧ m.year ≤ 9999
  month : 1 ≤ m.month ∧ m.month ≤ 12
  ahead : -93540 ≤ m.ahead ∧ m.ahead ≤ 93540

theorem inRange_of_moment {m : Moment} (h : moment text = some (m, rest)) : m.InRange := by
  simp only [moment, bind_eq_some_iff] at h
  obtain ⟨_, _, -, _, _, -, day, _, -, _, _, -, month, _, hmonth, _, _, -, year, _, hyear,
    hour, _, -, _, _, -, _, _, -, _, _, -, minute, _, -, second, _, -, _, _, -, ahead, _, hahead,
    _, _, -, h⟩ := h
  cases h
  exact ⟨year_bounds hyear, month_bounds hmonth, zone_bounds hahead⟩

theorem monthDays_le (year : Int) (month : Nat) : monthDays year month ≤ 31 := by
  unfold monthDays
  repeat' split
  all_goals decide

theorem foldl_monthDays_bounds (year : Int) (ms : List Nat) (days : Int) :
    days ≤ ms.foldl (fun (days : Int) m => days + monthDays year (m + 1)) days ∧
      ms.foldl (fun (days : Int) m => days + monthDays year (m + 1)) days ≤
        days + 31 * ms.length := by
  induction ms generalizing days with
  | nil => simp
  | cons m ms ih =>
    have hmonth := monthDays_le year (m + 1)
    have hmore := ih (days + monthDays year (m + 1))
    simp only [List.foldl_cons, List.length_cons]
    omega

theorem dayNumber_bounds {year : Int} {month day : Nat} (hyear : 1900 ≤ year ∧ year ≤ 9999)
    (hmonth : month ≤ 12) (hday : 1 ≤ day ∧ day ≤ 31) :
    -26000 ≤ dayNumber year month day ∧ dayNumber year month day ≤ 2940000 := by
  have hdays := foldl_monthDays_bounds year (List.range (month - 1)) (daysBefore year)
  have hbefore : -25567 ≤ daysBefore year ∧ daysBefore year ≤ 2932532 := by
    dsimp only [daysBefore]
    omega
  rw [List.length_range] at hdays
  unfold dayNumber
  omega

/-- A moment that exists is less than ten thousand years away from 1970. -/
theorem Moment.InRange.nanos_bounds {m : Moment} (h : m.InRange) (hvalid : m.isValid = true) :
    -300000000000 * 1000000000 ≤ m.nanos ∧ m.nanos ≤ 300000000000 * 1000000000 := by
  simp only [isValid, Bool.and_eq_true, decide_eq_true_eq] at hvalid
  obtain ⟨⟨⟨⟨hday, hlast⟩, hhour⟩, hminute⟩, -⟩ := hvalid
  have hdays := dayNumber_bounds h.year h.month.2
    ⟨hday, Nat.le_trans hlast (monthDays_le m.year m.month)⟩
  have hahead := h.ahead
  have hsecond := Nat.min_le_right m.second 59
  unfold nanos unixSeconds
  split <;> omega

theorem nanos?_bounds {text : String} {moment : Int} (h : nanos? text = some moment) :
    -300000000000 * 1000000000 ≤ moment ∧ moment ≤ 300000000000 * 1000000000 := by
  rw [nanos?, Option.bind_eq_bind, Option.bind_eq_some_iff] at h
  obtain ⟨⟨m, rest⟩, hread, h⟩ := h
  dsimp only at h
  split at h
  · rename_i hwhole
    cases h
    exact (inRange_of_moment hread).nanos_bounds hwhole.2
  · cases h

/-! ### Numbers are no dates -/

/-- The plus sign and the digits begin neither a gap nor the name of a day. -/
theorem mem_of_counts {c : Char} (h : c.isDigit = true ∨ c = '+') : c ∈ "+0123456789".toList := by
  rcases h with h | rfl
  · have hall : ∀ n < 58, 48 ≤ n → Char.ofNat n ∈ "+0123456789".toList := by
      decide +kernel
    have hdigit : 48 ≤ c.toNat ∧ c.toNat ≤ 57 := Char.isDigit_iff_toNat.mp h
    rw [← Char.ofNat_toNat c]
    exact hall _ (by omega) hdigit.1
  · decide

theorem skip_of_counts {text : List Char} (h : ∀ c ∈ text.head?, c.isDigit = true ∨ c = '+') :
    skip 0 text = some text := by
  cases text with
  | nil => rfl
  | cons c rest =>
    have hall : ∀ c ∈ "+0123456789".toList, c ≠ '(' ∧ c ≠ ' ' ∧ c ≠ '\t' := by simp
    have hc := hall c (mem_of_counts (h c rfl))
    simp [skip, hc]

theorem maybeWeekday_of_counts {text : List Char}
    (h : ∀ c ∈ text.head?, c.isDigit = true ∨ c = '+') : maybeWeekday text = some ((), text) := by
  have hnames : ∀ name ∈ weekdays, ∃ c ∈ "mtwfs".toList, name.toList.head? = some c := by
    simp [weekdays]
  have hother : ∀ c ∈ "+0123456789".toList, c.toLower ∉ "mtwfs".toList := by simp
  have hnone : weekdays.contains (String.ofList ((text.take 3).map Char.toLower)) = false := by
    refine Bool.not_eq_true _ ▸ fun hmem => ?_
    obtain ⟨first, hfirst, hhead⟩ := hnames _ (List.contains_iff_mem.mp hmem)
    rw [String.toList_ofList] at hhead
    cases text with
    | nil => cases hhead
    | cons c rest =>
      cases hhead
      exact hother c (mem_of_counts (h c rfl)) hfirst
  rw [maybeWeekday, hnone]
  rfl

/-- The day of a date is read from what a number begins with. -/
theorem moment_of_counts {text : List Char} (h : ∀ c ∈ text.head?, c.isDigit = true ∨ c = '+')
    (hday : ∀ day rest, oneOf [digits 2, digits 1] text = some (day, rest) → separator rest = none) :
    moment text = none := by
  have hgap : gap text = some ((), text) := by rw [gap, skip_of_counts h]; rfl
  rw [moment, bind_of_some hgap, bind_of_some (maybeWeekday_of_counts h)]
  cases hread : oneOf [digits 2, digits 1] text with
  | none => exact bind_of_none hread
  | some read =>
    rw [bind_of_some hread]
    exact bind_of_none (hday _ _ hread)

theorem moment_of_digits {text : List Char} (h : text.all Char.isDigit = true) :
    moment text = none := by
  have hall := List.all_eq_true.mp h
  refine moment_of_counts (fun c hc => .inl (hall c (List.mem_of_mem_head? hc))) ?_
  intro day rest hread
  obtain ⟨r, hr, hdigits⟩ := exists_of_oneOf hread
  have hrest : ∃ n, rest = text.drop n := by
    rcases List.mem_cons.mp hr with rfl | hr
    · exact ⟨2, (exists_of_digits hdigits).1⟩
    · obtain rfl := List.mem_singleton.mp hr
      exact ⟨1, (exists_of_digits hdigits).1⟩
  obtain ⟨n, rfl⟩ := hrest
  have hskip : skip 0 (text.drop n) = some (text.drop n) :=
    skip_of_counts fun c hc => .inl (hall c (List.mem_of_mem_drop (List.mem_of_mem_head? hc)))
  simp [separator, hskip]

theorem moment_of_plus (rest : List Char) : moment ('+' :: rest) = none := by
  have hplus : ∀ c ∈ ('+' :: rest).head?, c.isDigit = true ∨ c = '+' := by simp
  have hnone {n : Nat} : digits (n + 1) ('+' :: rest) = none := by
    simp [digits, List.take_succ_cons]
  refine moment_of_counts hplus fun day mid hread => ?_
  rw [oneOf_eq_none (by simp [hnone])] at hread
  cases hread

end TicketGrant.Http.MailDate
