/-!
# Instants and durations

Both count nanoseconds: an instant from the start of 1970, a duration from nothing. Instants cover
the years -9999 to 9999, so a sum may fall outside of them.
-/
namespace TicketGrant

/-- A length of time, which may be negative. -/
structure Duration where
  nanos : Int
deriving DecidableEq, Inhabited

/-- A duration of whole seconds. -/
def Duration.seconds (n : Int) : Duration := ⟨n * 1000000000⟩

/-- The nanoseconds from the start of 1970 to the start of the year -9999. -/
def Instant.first : Int := -377705116800 * 1000000000

/-- The nanoseconds from the start of 1970 to the end of the year 9999. -/
def Instant.last : Int := 253402300800 * 1000000000 - 1

/-- A moment of the years -9999 to 9999. -/
structure Instant where
  /-- Nanoseconds since the start of 1970. -/
  nanos : Int
  /-- The first moment is not missed. -/
  first_le : Instant.first ≤ nanos
  /-- Neither is the last. -/
  le_last : nanos ≤ Instant.last
deriving DecidableEq

namespace Instant

/-- The moment at a number of nanoseconds, if it is in range. -/
def ofNanos? (n : Int) : Option Instant :=
  if h : first ≤ n ∧ n ≤ last then some ⟨n, h.1, h.2⟩ else none

/-- The start of 1970. -/
def epoch : Instant := ⟨0, by decide, by decide⟩

instance : Inhabited Instant := ⟨epoch⟩

/-- The moment a duration later, if it is in range. -/
def add? (i : Instant) (d : Duration) : Option Instant := ofNanos? (i.nanos + d.nanos)

/-- The whole seconds since the start of 1970, rounded down. -/
def unixSeconds (i : Instant) : Int := i.nanos / 1000000000

theorem nanos_of_add? {i j : Instant} {d : Duration} (h : i.add? d = some j) :
    j.nanos = i.nanos + d.nanos := by
  unfold add? ofNanos? at h
  split at h
  · cases h; rfl
  · cases h

theorem add?_isSome_iff {i : Instant} {d : Duration} :
    (i.add? d).isSome ↔ first ≤ i.nanos + d.nanos ∧ i.nanos + d.nanos ≤ last := by
  unfold add? ofNanos?
  split <;> simp_all

end Instant
end TicketGrant
