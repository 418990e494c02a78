/-!
# Status codes

The first of the three digits of a status tells its class.
-/
namespace TicketGrant.Http

/-- The status of an answer. -/
structure Status where
  code : Nat
deriving DecidableEq, Inhabited

namespace Status

/-- The status only announces that an answer will come; 101 is an answer. -/
def isProvisional (s : Status) : Bool := 100 ≤ s.code && s.code < 200 && s.code != 101

/-- The request was fulfilled. -/
def isSuccess (s : Status) : Bool := 200 ≤ s.code && s.code < 300

/-- The request was at fault. -/
def isClientError (s : Status) : Bool := 400 ≤ s.code && s.code < 500

theorem not_isClientError_of_isSuccess {s : Status} (h : s.isSuccess = true) :
    s.isClientError = false := by
  simp only [isSuccess, isClientError, Bool.and_eq_true, decide_eq_true_eq] at *
  simp
  omega

theorem not_isSuccess_of_isClientError {s : Status} (h : s.isClientError = true) :
    s.isSuccess = false := by
  rw [Bool.eq_false_iff]
  intro hs
  exact absurd (not_isClientError_of_isSuccess hs ▸ h) (by decide)

end Status
end TicketGrant.Http
