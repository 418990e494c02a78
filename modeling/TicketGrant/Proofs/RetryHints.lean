import Mathlib.Data.List.TakeWhile
import TicketGrant.Http.RetryAfter
import TicketGrant.Proofs.Fields
import TicketGrant.Proofs.MailDates

/-!
# Hints in answers

The hint of an answer is that of its first `Retry-After` field. A text counts seconds or is a mail
date, and never both, so each way to write a hint has its own law (`IsHint`). No hint is negative, and
none is longer than 64 bits of seconds can say.
-/
namespace TicketGrant.Http.RetryAfter

/-- A text counts `n` seconds: it is the digits of `n`, perhaps with zeros and a plus sign before them. -/
def Counts (text : List Char) (n : Nat) : Prop :=
  ∃ digits, (text = digits ∨ text = '+' :: digits) ∧ digits ≠ [] ∧
    (∀ c ∈ digits, c.isDigit = true) ∧
      n = Nat.ofDigits 10 (digits.reverse.map fun c => c.toNat - 48)

variable {text : List Char} {n : Nat} {value : Bytes} {now : Instant}

theorem Counts.mem (h : Counts text n) {c : Char} (hc : c ∈ text) : c ∈ "+0123456789".toList := by
  obtain ⟨digits, htext, -, hdigits, -⟩ := h
  refine MailDate.mem_of_counts ?_
  rcases htext with rfl | rfl
  · exact .inl (hdigits c hc)
  · exact (List.mem_cons.mp hc).symm.imp_left (hdigits c)

/-! ### Numbers -/

theorem number?_eq_some_iff {digits : List Char} :
    number? digits = some n ↔ digits ≠ [] ∧ (∀ c ∈ digits, c.isDigit = true) ∧
      n = Nat.ofDigits 10 (digits.reverse.map fun c => c.toNat - 48) := by
  rw [number?, MailDate.number_eq_ofDigits]
  by_cases hwhole : digits ≠ [] ∧ ∀ c ∈ digits, c.isDigit = true
  · have hnone : ¬ (digits.isEmpty || !digits.all Char.isDigit) = true := by simpa using hwhole
    rw [if_neg hnone, Option.some.injEq]
    exact ⟨fun h => ⟨hwhole.1, hwhole.2, h.symm⟩, fun h => h.2.2.symm⟩
  · have hnone : (digits.isEmpty || !digits.all Char.isDigit) = true := by
      by_contra hsome
      exact hwhole (by simpa using hsome)
    rw [if_pos hnone]
    simp only [reduceCtorEq, false_iff]
    rintro ⟨hne, hdigits, -⟩
    exact hwhole ⟨hne, hdigits⟩

/-- A sign is left out, if there is one. -/
theorem exists_unsigned (text : List Char) :
    ∃ digits, (∀ n, Counts text n ↔ number? digits = some n) ∧
      seconds? text =
        (number? digits).bind fun n => if n < UInt64.size then some n else none := by
  simp only [number?_eq_some_iff]
  by_cases hsign : ∃ rest, text = '+' :: rest
  · obtain ⟨rest, rfl⟩ := hsign
    refine ⟨rest, fun n => ⟨?_, fun h => ⟨rest, .inr rfl, h⟩⟩, rfl⟩
    rintro ⟨digits, rfl | heq, hne, hdigits, hn⟩
    · exact absurd (hdigits '+' List.mem_cons_self) (by decide)
    · obtain rfl := (List.cons.inj heq).2
      exact ⟨hne, hdigits, hn⟩
  · have hunsigned : ∀ rest, text ≠ '+' :: rest := fun rest heq => hsign ⟨rest, heq⟩
    refine ⟨text, fun n => ⟨?_, fun h => ⟨text, .inl rfl, h⟩⟩, ?_⟩
    · rintro ⟨digits, rfl | heq, hwhole⟩
      · exact hwhole
      · exact absurd heq (hunsigned digits)
    · rw [seconds?]
      · rfl
      · exact hunsigned

theorem seconds?_of_counts (h : Counts text n) :
    seconds? text = if n < UInt64.size then some n else none := by
  obtain ⟨digits, hcounts, hseconds⟩ := exists_unsigned text
  rw [hseconds, (hcounts n).mp h, Option.bind_some]

theorem seconds?_of_not_counts (h : ∀ n, ¬ Counts text n) : seconds? text = none := by
  obtain ⟨digits, hcounts, hseconds⟩ := exists_unsigned text
  have hnone : number? digits = none :=
    Option.eq_none_iff_forall_ne_some.mpr fun n hn => h n ((hcounts n).mpr hn)
  rw [hseconds, hnone, Option.bind_none]

/-- What counts seconds is no date. -/
theorem Counts.nanos?_eq {text : String} (h : Counts text.toList n) : MailDate.nanos? text = none := by
  have hmoment : MailDate.moment text.toList = none := by
    obtain ⟨digits, htext, -, hdigits, -⟩ := h
    rcases htext with htext | htext <;> rw [htext]
    · exact MailDate.moment_of_digits (List.all_eq_true.mpr hdigits)
    · exact MailDate.moment_of_plus digits
  rw [MailDate.nanos?, hmoment]
  rfl

theorem untilDate?_toList (text : String) (now : Instant) :
    untilDate? text.toList now = (MailDate.nanos? text).bind fun moment =>
      if now.nanos < moment then some ⟨moment - now.nanos⟩ else none := by
  rw [untilDate?, String.ofList_toList]
  rfl

/-! ### Blanks -/

theorem isBlank_ofNat {b : UInt8} (h : isReadable b = true) :
    Text.isBlank (Char.ofNat b.toNat) = isGap b := by
  have hall : ∀ n < 256, isReadable (UInt8.ofNat n) = true →
      Text.isBlank (Char.ofNat n) = isGap (UInt8.ofNat n) := by decide +kernel
  have hb := hall b.toNat b.toNat_lt
  rw [UInt8.ofNat_toNat] at hb
  exact hb h

theorem dropWhile_isBlank {bytes : Bytes} (h : ∀ b ∈ bytes, isReadable b = true) :
    (bytes.map fun b => Char.ofNat b.toNat).dropWhile Text.isBlank =
      (bytes.dropWhile isGap).map fun b => Char.ofNat b.toNat := by
  induction bytes with
  | nil => rfl
  | cons b bytes ih =>
    obtain ⟨hb, hbytes⟩ := List.forall_mem_cons.mp h
    rw [List.map_cons, List.dropWhile_cons, List.dropWhile_cons, isBlank_ofNat hb]
    split
    · exact ih hbytes
    · rfl

/-- A readable value loses the same blanks as bytes and as a text. -/
theorem withoutBlanks_asciiText (h : ∀ b ∈ value, isReadable b = true) :
    withoutBlanks (asciiText value).toList = (asciiText (trimmed value)).toList := by
  have hrest : ∀ b ∈ (value.dropWhile isGap).reverse, isReadable b = true := fun b hb =>
    h b ((List.dropWhile_suffix _).subset (List.mem_reverse.mp hb))
  rw [withoutBlanks, asciiText, asciiText, trimmed, String.toList_ofList, String.toList_ofList,
    dropWhile_isBlank h, ← List.map_reverse, dropWhile_isBlank hrest, List.map_reverse]

theorem mem_trimmed {b : UInt8} (hb : b ∈ value) (hgap : isGap b = false) : b ∈ trimmed value := by
  have hdrop {bytes : Bytes} (hmem : b ∈ bytes) : b ∈ bytes.dropWhile isGap := by
    have hsplit : bytes.takeWhile isGap ++ bytes.dropWhile isGap = bytes :=
      List.takeWhile_append_dropWhile
    rw [← hsplit, List.mem_append] at hmem
    refine hmem.resolve_left fun htaken => ?_
    rw [List.mem_takeWhile_imp htaken] at hgap
    cases hgap
  exact List.mem_reverse.mpr (hdrop (List.mem_reverse.mpr (hdrop hb)))

/-- What counts seconds can be read. -/
theorem isReadable_of_counts (h : Counts (asciiText (trimmed value)).toList n) :
    ∀ b ∈ value, isReadable b = true := by
  have hall : ∀ n < 256, Char.ofNat n ∈ "+0123456789".toList →
      isReadable (UInt8.ofNat n) = true := by decide +kernel
  intro b hb
  cases hgap : isGap b with
  | true =>
    rcases Bool.or_eq_true_iff.mp hgap with heq | heq <;> rw [beq_iff_eq.mp heq] <;> decide
  | false =>
    have hmem : Char.ofNat b.toNat ∈ (asciiText (trimmed value)).toList := by
      rw [asciiText, String.toList_ofList]
      exact List.mem_map_of_mem (mem_trimmed hb hgap)
    have hread := hall b.toNat b.toNat_lt (h.mem hmem)
    rwa [UInt8.ofNat_toNat] at hread

/-! ### Hints -/

/-- What a value says about coming back. -/
structure IsHint (value : Bytes) (now : Instant) (hint : Option Duration) : Prop where
  ofUnreadable : ∀ b ∈ value, isReadable b = false → hint = none
  ofCount : ∀ n, Counts (asciiText (trimmed value)).toList n →
    hint = if n < 2 ^ 64 then some (.seconds (min n (2 ^ 63 - 1))) else none
  ofDate : (∀ b ∈ value, isReadable b = true) →
    ∀ moment, MailDate.nanos? (asciiText (trimmed value)) = some moment → now.nanos < moment →
      hint = some ⟨moment - now.nanos⟩
  /-- Neither a number nor a date that is still to come. -/
  ofNeither : (∀ n, ¬ Counts (asciiText (trimmed value)).toList n) →
    (∀ moment, MailDate.nanos? (asciiText (trimmed value)) = some moment → moment ≤ now.nanos) →
      hint = none
  /-- The seconds to a date, or since a date, can be counted in 64 bits. -/
  inRange : ∀ moment, MailDate.nanos? (asciiText (trimmed value)) = some moment →
    -(2 ^ 63) * 1000000000 ≤ moment - now.nanos ∧
      moment - now.nanos ≤ (2 ^ 63 - 1) * 1000000000

theorem difference_bounds {text : String} {moment : Int} (h : MailDate.nanos? text = some moment)
    (now : Instant) :
    -(2 ^ 63) * 1000000000 ≤ moment - now.nanos ∧
      moment - now.nanos ≤ (2 ^ 63 - 1) * 1000000000 := by
  have hmoment := MailDate.nanos?_bounds h
  have hfirst := now.first_le
  have hlast := now.le_last
  simp only [Instant.first, Instant.last] at hfirst hlast
  omega

/-- A readable value is a count if its text is one, without the blanks around it. -/
theorem ofText?_of_seconds (h : ∀ b ∈ value, isReadable b = true) (now : Instant)
    (hseconds : seconds? (asciiText (trimmed value)).toList = some n) :
    ofText? (asciiText value) now = some (.seconds (min n maxSeconds)) := by
  simp only [ofText?, withoutBlanks_asciiText h, hseconds]

theorem ofText?_of_no_seconds (h : ∀ b ∈ value, isReadable b = true) (now : Instant)
    (hseconds : seconds? (asciiText (trimmed value)).toList = none) :
    ofText? (asciiText value) now = (MailDate.nanos? (asciiText (trimmed value))).bind fun moment =>
      if now.nanos < moment then some ⟨moment - now.nanos⟩ else none := by
  simp only [ofText?, withoutBlanks_asciiText h, hseconds, untilDate?_toList]

theorem isHint_ofValue (value : Bytes) (now : Instant) :
    IsHint value now ((readable? value).bind fun text => ofText? text now) := by
  have hread (h : ∀ b ∈ value, isReadable b = true) :
      (readable? value).bind (fun text => ofText? text now) = ofText? (asciiText value) now := by
    rw [readable?, if_pos (List.all_eq_true.mpr h), Option.bind_some]
  refine ⟨fun b hb hunreadable => ?unreadable, fun n hcounts => ?count,
    fun hreadable moment hmoment hlater => ?date, fun hnumber hdate => ?neither,
    fun moment hmoment => difference_bounds hmoment now⟩
  case unreadable =>
    have hnone : ¬ value.all isReadable = true := fun hall => by
      rw [List.all_eq_true.mp hall b hb] at hunreadable
      cases hunreadable
    rw [readable?, if_neg hnone, Option.bind_none]
  case count =>
    have hreadable := isReadable_of_counts hcounts
    have hmax : (maxSeconds : Int) = 2 ^ 63 - 1 := by decide
    have hsize : UInt64.size = 2 ^ 64 := by decide
    have hseconds := seconds?_of_counts hcounts
    rw [hread hreadable, ← hmax, ← hsize]
    by_cases hn : n < UInt64.size
    · rw [if_pos hn] at hseconds ⊢
      exact ofText?_of_seconds hreadable now hseconds
    · rw [if_neg hn] at hseconds ⊢
      rw [ofText?_of_no_seconds hreadable now hseconds, hcounts.nanos?_eq, Option.bind_none]
  case date =>
    have hnumber : seconds? (asciiText (trimmed value)).toList = none := by
      refine seconds?_of_not_counts fun n hcounts => ?_
      rw [hcounts.nanos?_eq] at hmoment
      cases hmoment
    rw [hread hreadable, ofText?_of_no_seconds hreadable now hnumber, hmoment, Option.bind_some,
      if_pos hlater]
  case neither =>
    by_cases hreadable : ∀ b ∈ value, isReadable b = true
    · rw [hread hreadable, ofText?_of_no_seconds hreadable now (seconds?_of_not_counts hnumber)]
      refine Option.bind_eq_none_iff.mpr fun moment hmoment => ?_
      rw [if_neg (Int.not_lt.mpr (hdate moment hmoment))]
    · have hnone : ¬ value.all isReadable = true := fun hall =>
        hreadable (List.all_eq_true.mp hall)
      rw [readable?, if_neg hnone, Option.bind_none]

theorem isHint_ofHeaders? {headers : List Header}
    (h : fieldValue? headers "retry-after" = some value) (now : Instant) :
    IsHint value now (ofHeaders? headers now) := by
  rw [ofHeaders?, h]
  exact isHint_ofValue value now

/-- A hint is a count, or the time to a date that is still to come. -/
theorem IsHint.nanos_bounds {hint : Duration} (h : IsHint value now (some hint)) :
    0 ≤ hint.nanos ∧ hint.nanos ≤ (2 ^ 63 - 1) * 1000000000 := by
  have hreadable : ∀ b ∈ value, isReadable b = true := by
    intro b hb
    by_contra hunreadable
    cases h.ofUnreadable b hb (Bool.not_eq_true _ ▸ hunreadable)
  by_cases hcounts : ∃ n, Counts (asciiText (trimmed value)).toList n
  · obtain ⟨n, hcounts⟩ := hcounts
    have hcount := h.ofCount n hcounts
    split at hcount
    · cases hcount
      dsimp only [Duration.seconds]
      omega
    · cases hcount
  by_cases hdate : ∃ moment, MailDate.nanos? (asciiText (trimmed value)) = some moment ∧
      now.nanos < moment
  · obtain ⟨moment, hmoment, hlater⟩ := hdate
    cases h.ofDate hreadable moment hmoment hlater
    exact ⟨Int.sub_nonneg_of_le (Int.le_of_lt hlater), (h.inRange moment hmoment).2⟩
  · have hnone := h.ofNeither (fun n hn => hcounts ⟨n, hn⟩) fun moment hmoment =>
      Int.not_lt.mp fun hlater => hdate ⟨moment, hmoment, hlater⟩
    cases hnone

/-- Without a `Retry-After` field there is no hint; otherwise the first one decides, whatever stands in
others. No hint is negative, or longer than can be counted in 64 bits. -/
theorem hint_of_headers (headers : List Header) (now : Instant) :
    ((∀ h ∈ headers, lowerName h.name ≠ "retry-after") → ofHeaders? headers now = none) ∧
    (∀ before h after, headers = before ++ h :: after →
      (∀ other ∈ before, lowerName other.name ≠ "retry-after") →
      lowerName h.name = "retry-after" → IsHint h.value now (ofHeaders? headers now)) ∧
    ∀ hint, ofHeaders? headers now = some hint →
      0 ≤ hint.nanos ∧ hint.nanos ≤ (2 ^ 63 - 1) * 1000000000 := by
  have hlower : lowerName "retry-after" = "retry-after" := by decide +kernel
  refine ⟨fun habsent => ?_, fun before h after hheaders hbefore hname => ?_, fun hint hhint => ?_⟩
  · rw [ofHeaders?, fieldValue?_of_absent (hlower.symm ▸ habsent)]
    rfl
  · have hfirst : fieldValue? headers "retry-after" = some h.value :=
      fieldValue?_eq_some_iff.mpr
        ⟨before, h, after, hheaders, hlower.symm ▸ hbefore, hname.trans hlower.symm, rfl⟩
    exact isHint_ofHeaders? hfirst now
  · cases hvalue : fieldValue? headers "retry-after" with
    | none =>
      rw [ofHeaders?, hvalue] at hhint
      cases hhint
    | some value => exact (hhint ▸ isHint_ofHeaders? hvalue now).nanos_bounds

/-- The first of two fields, with a blank, a plus sign and zeros in front. -/
theorem hint_of_two_fields :
    ofHeaders? [.ofText "Retry-After" " +007", .ofText "retry-after" "9"] .epoch =
      some (.seconds 7) := by
  have hname : lowerName "Retry-After" = "retry-after" := by decide +kernel
  have hcounts : Counts (asciiText (trimmed (Utf8.encode " +007"))).toList 7 :=
    ⟨['0', '0', '7'], .inr (by decide +kernel), by simp, by simp, by decide +kernel⟩
  have hhint := (hint_of_headers [.ofText "Retry-After" " +007", .ofText "retry-after" "9"]
    .epoch).2.1 [] _ _ rfl (List.forall_mem_nil _) hname
  rw [hhint.ofCount 7 hcounts, if_pos (by decide)]
  rfl

example : ofHeaders? [.ofText "retry-after" "18446744073709551615"] .epoch =
    some (.seconds 9223372036854775807) := by decide +kernel

example : ofHeaders? [.ofText "retry-after" "18446744073709551616"] .epoch = none := by
  decide +kernel

end TicketGrant.Http.RetryAfter
