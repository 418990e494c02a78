import TicketGrant.Proofs.Conversation

/-!
# Traces

What a trace tells of a negotiation: the requests with their deliveries, the calls of the resolver,
the budget seen at each call, and the rounds. A round ends when the resolver finds a claim, because
then the next one starts; so a trace always has one round more than such claims.
-/
namespace TicketGrant.Trace

open Http Dialogue

/-- The turn is an observation, of which the environment knows nothing. -/
def isObserved : Turn → Bool
  | .observed _ => true
  | _ => false

/-- What the environment hears. -/
def heard (trace : List Turn) : List Turn := trace.filter (!isObserved ·)

/-- What can be seen in a turn. -/
def observation? : Turn → Option Observation
  | .observed entry => some entry
  | _ => none

/-- What can be seen in a trace. -/
def observations (trace : List Turn) : List Observation := trace.filterMap observation?

/-- A request in a turn, with its delivery. -/
def sending? : Turn → Option (Request × Delivery)
  | .sent request delivery => some (request, delivery)
  | _ => none

/-- The requests of a trace, with their deliveries. -/
def sendings (trace : List Turn) : List (Request × Delivery) := trace.filterMap sending?

/-- A call of the resolver in a turn, with its answer. -/
def resolution? : Turn → Option (Challenge × Resolution)
  | .resolved challenge resolution => some (challenge, resolution)
  | _ => none

/-- The calls of the resolver in a trace, with its answers. -/
def resolutions (trace : List Turn) : List (Challenge × Resolution) := trace.filterMap resolution?

/-- A claim that the resolver found in a turn, with the demand that it meets. -/
def meeting? : Turn → Option (Challenge × ClaimToken)
  | .resolved challenge (.claim token) => some (challenge, token)
  | _ => none

/-- The claims that the resolver found in a trace, with the demands that they meet. -/
def meetings (trace : List Turn) : List (Challenge × ClaimToken) := trace.filterMap meeting?

/-- The budget that is seen when a turn announces a call of the resolver. -/
def remainder? : Turn → Option Nat
  | .observed (.challenge remaining _) => some remaining
  | _ => none

/-- The budget before each call of the resolver. -/
def remainders (trace : List Turn) : List Nat := trace.filterMap remainder?

/-- The answer to the last request of a trace, if it has come. -/
def lastResponse? (trace : List Turn) : Option Response :=
  (sendings trace).getLast?.bind (·.2.outcome.toOption)

/-- The rounds of a trace, as the environment hears them. -/
def rounds : List Turn → List (List Turn)
  | [] => [[]]
  | turn :: rest =>
    if isObserved turn then rounds rest
    else if (meeting? turn).isSome then [turn] :: rounds rest
    else (rounds rest).modifyHead (turn :: ·)

/-- The demand and the claim with which a round ends. -/
def meetingOf? (round : List Turn) : Option (Challenge × ClaimToken) :=
  round.getLast?.bind meeting?

section Append
variable (xs ys : List Turn)

@[simp] theorem heard_append : heard (xs ++ ys) = heard xs ++ heard ys := List.filter_append ..

@[simp] theorem observations_append :
    observations (xs ++ ys) = observations xs ++ observations ys :=
  List.filterMap_append

@[simp] theorem sendings_append : sendings (xs ++ ys) = sendings xs ++ sendings ys :=
  List.filterMap_append

@[simp] theorem resolutions_append : resolutions (xs ++ ys) = resolutions xs ++ resolutions ys :=
  List.filterMap_append

@[simp] theorem meetings_append : meetings (xs ++ ys) = meetings xs ++ meetings ys :=
  List.filterMap_append

@[simp] theorem remainders_append : remainders (xs ++ ys) = remainders xs ++ remainders ys :=
  List.filterMap_append

end Append

/-- Observations are no requests, so a trace has those that are heard. -/
@[simp] theorem sendings_heard (xs : List Turn) : sendings (heard xs) = sendings xs := by
  rw [sendings, heard, List.filterMap_filter]
  congr 1
  funext turn
  cases turn <;> rfl

@[simp] theorem resolutions_heard (xs : List Turn) : resolutions (heard xs) = resolutions xs := by
  rw [resolutions, heard, List.filterMap_filter]
  congr 1
  funext turn
  cases turn <;> rfl

@[simp] theorem meetings_heard (xs : List Turn) : meetings (heard xs) = meetings xs := by
  rw [meetings, heard, List.filterMap_filter]
  congr 1
  funext turn
  cases turn <;> rfl

/-- A trace in which the resolver is not called has no claims. -/
theorem meetings_eq_nil_of_resolutions {xs : List Turn} (h : resolutions xs = []) :
    meetings xs = [] := by
  rw [meetings, List.filterMap_eq_nil_iff]
  intro turn hmem
  have hturn := List.filterMap_eq_nil_iff.mp h turn hmem
  cases turn with
  | resolved challenge resolution => cases hturn
  | _ => rfl

/-! ### Rounds -/

theorem rounds_ne_nil (xs : List Turn) : rounds xs ≠ [] := by
  induction xs with
  | nil => simp [rounds]
  | cons x xs ih =>
    rw [rounds]
    split
    · exact ih
    · split
      · simp
      · cases h : rounds xs with
        | nil => exact absurd h ih
        | cons first more => simp

/-- Every turn that is heard belongs to a round. -/
theorem flatten_rounds (xs : List Turn) : (rounds xs).flatten = heard xs := by
  induction xs with
  | nil => rfl
  | cons x xs ih =>
    by_cases hseen : isObserved x
    · simpa [rounds, heard, hseen] using ih
    · have hkeep : heard (x :: xs) = x :: heard xs := by simp [heard, hseen]
      rw [rounds, if_neg hseen, hkeep, ← ih]
      split
      · rfl
      · cases h : rounds xs with
        | nil => exact absurd h (rounds_ne_nil xs)
        | cons first more => rfl

/-- Rounds are made of what is heard. -/
theorem rounds_heard (xs : List Turn) : rounds (heard xs) = rounds xs := by
  induction xs with
  | nil => rfl
  | cons x xs ih =>
    by_cases hx : isObserved x
    · have hskip : heard (x :: xs) = heard xs := by simp [heard, hx]
      rw [hskip, ih, rounds, if_pos hx]
    · have hkeep : heard (x :: xs) = x :: heard xs := by simp [heard, hx]
      rw [hkeep, rounds, rounds, ih]

/-- What is heard before the first claim belongs to the first round. -/
theorem rounds_append {xs : List Turn} (h : meetings xs = []) (ys : List Turn) :
    rounds (xs ++ ys) = (rounds ys).modifyHead (heard xs ++ ·) := by
  induction xs with
  | nil => exact (congrFun List.modifyHead_id (rounds ys)).symm
  | cons x xs ih =>
    obtain ⟨hx, hxs⟩ := List.forall_mem_cons.mp (List.filterMap_eq_nil_iff.mp h)
    have hmore := ih (List.filterMap_eq_nil_iff.mpr hxs)
    by_cases hseen : isObserved x
    · simp [rounds, heard, hseen, hmore]
    · simp [rounds, heard, hseen, hx, hmore, Function.comp_def]

/-- Without a claim there is one round. -/
theorem rounds_eq_singleton {xs : List Turn} (h : meetings xs = []) : rounds xs = [heard xs] := by
  rw [← List.append_nil xs, rounds_append h, List.append_nil]
  exact congrArg ([·]) (List.append_nil _)

/-- A claim ends the first round. -/
theorem rounds_append_cons {xs ys : List Turn} {challenge : Challenge} {token : ClaimToken}
    (h : meetings xs = []) :
    rounds (xs ++ .resolved challenge (.claim token) :: ys) =
      (heard xs ++ [.resolved challenge (.claim token)]) :: rounds ys :=
  rounds_append h _

/-! ### What stands around a flow -/

section Framed
variable {α : Type} {kind : FlowKind} {stage : String} {inner : List Turn}
  {result : Except Failure α}

/-- A flow with what is said around it. -/
def framed (kind : FlowKind) (stage : String) (inner : List Turn) (result : Except Failure α) :
    List Turn :=
  Flow.opening kind stage ++ inner ++ Flow.closing kind result

/-- Around a flow there are only observations. -/
theorem heard_framed : heard (framed kind stage inner result) = heard inner := by
  have hopening : heard (Flow.opening kind stage) = [] := rfl
  have hclosing : heard (Flow.closing kind result) = [] := by cases result <;> rfl
  rw [framed, heard_append, heard_append, hopening, hclosing, List.nil_append, List.append_nil]

theorem length_framed_le : (framed kind stage inner result).length ≤ inner.length + 4 := by
  cases result <;> simp [framed, Flow.opening, Flow.closing]

@[simp] theorem sendings_framed : sendings (framed kind stage inner result) = sendings inner := by
  rw [← sendings_heard, heard_framed, sendings_heard]

@[simp] theorem resolutions_framed :
    resolutions (framed kind stage inner result) = resolutions inner := by
  rw [← resolutions_heard, heard_framed, resolutions_heard]

@[simp] theorem meetings_framed : meetings (framed kind stage inner result) = meetings inner := by
  rw [← meetings_heard, heard_framed, meetings_heard]

@[simp] theorem rounds_framed : rounds (framed kind stage inner result) = rounds inner := by
  rw [← rounds_heard, heard_framed, rounds_heard]

@[simp] theorem remainders_framed :
    remainders (framed kind stage inner result) = remainders inner := by
  have hclosing : remainders (Flow.closing kind result) = [] := by cases result <;> rfl
  rw [framed, remainders_append, remainders_append, hclosing, List.append_nil]
  rfl

end Framed

end TicketGrant.Trace
