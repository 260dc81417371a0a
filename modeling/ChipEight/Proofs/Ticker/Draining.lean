import ChipEight.Ticker

/-!
# Draining a ticker

A ticker is drained by polling it until nothing is due.  `Drains` is this loop as it is
run, with no bound on the number of polls; `firings` and `drained` say how often the ticker
fires and what becomes of it, by dividing the time that has passed by the period.  The two
agree for every ticker and every moment.

Firings can be dropped by the first poll alone.  A later one finds a deadline that is a
period closer, or one that was just moved behind the present moment.
-/

namespace ChipEight

namespace Ticker

/-- Polling a ticker at a moment until nothing is due: the number of polls that fired, and
the ticker after them. -/
inductive Drains (now : Nat) : Ticker → Nat → Ticker → Prop
  | still {ticker : Ticker} :
      (ticker.poll now).1 = false →
      Drains now ticker 0 (ticker.poll now).2
  | again {ticker after : Ticker} {count : Nat} :
      (ticker.poll now).1 = true →
      Drains now (ticker.poll now).2 count after →
      Drains now ticker (count + 1) after

/-- How often a ticker with a deadline fires until nothing is due at a moment: once if the
firings behind the first are dropped, and otherwise once for each deadline that has
passed. -/
def firingsFrom (ticker : Ticker) (now deadline : Nat) : Nat :=
  if now < deadline then
    0
  else if maximalLag < now - (deadline + ticker.period) then
    1
  else
    (now - deadline) / ticker.period + 1

/-- What its deadline becomes by that. -/
def deadlineFrom (ticker : Ticker) (now deadline : Nat) : Nat :=
  if now < deadline then
    deadline
  else if maximalLag < now - (deadline + ticker.period) then
    now + ticker.period
  else
    deadline + ticker.firingsFrom now deadline * ticker.period

/-- How often a ticker fires until nothing is due at a moment. -/
def firings (ticker : Ticker) (now : Nat) : Nat :=
  match ticker.next with
  | none => 0
  | some deadline => ticker.firingsFrom now deadline

/-- The ticker once nothing is due at a moment. -/
def drained (ticker : Ticker) (now : Nat) : Ticker :=
  { ticker with next := ticker.next.map (ticker.deadlineFrom now) }

variable {ticker after : Ticker} {now deadline count : Nat}

/-! ## One poll -/

theorem firingsFrom_of_lt (ticker : Ticker) (ahead : now < deadline) :
    ticker.firingsFrom now deadline = 0 ∧
      ticker.deadlineFrom now deadline = deadline :=
  ⟨if_pos ahead, if_pos ahead⟩

theorem firingsFrom_of_lag
    (ticker : Ticker) (lag : deadline + ticker.period + maximalLag < now) :
    ticker.firingsFrom now deadline = 1 ∧
      ticker.deadlineFrom now deadline = now + ticker.period := by
  have notAhead : ¬ now < deadline := by omega
  have dropped : maximalLag < now - (deadline + ticker.period) := by omega
  simp only [firingsFrom, deadlineFrom, if_neg notAhead, if_pos dropped,
    and_self]

theorem firingsFrom_of_no_lag
    (ticker : Ticker) (reached : deadline ≤ now)
    (close : now ≤ deadline + ticker.period + maximalLag) :
    ticker.firingsFrom now deadline = (now - deadline) / ticker.period + 1 ∧
      ticker.deadlineFrom now deadline =
        deadline + ticker.firingsFrom now deadline * ticker.period := by
  have notAhead : ¬ now < deadline := Nat.not_lt.mpr reached
  have noneDropped : ¬ maximalLag < now - (deadline + ticker.period) := by
    omega
  simp only [firingsFrom, deadlineFrom, if_neg notAhead, if_neg noneDropped,
    and_self]

/-- A firing takes a ticker one firing closer to the deadline at which it is drained. -/
theorem firingsFrom_of_le (ticker : Ticker) (reached : deadline ≤ now) :
    ticker.firingsFrom now deadline =
        ticker.firingsFrom now (ticker.following deadline now) + 1 ∧
      ticker.deadlineFrom now deadline =
        ticker.deadlineFrom now (ticker.following deadline now) := by
  have positive := ticker.period_pos
  by_cases lag : deadline + ticker.period + maximalLag < now
  · have follows : ticker.following deadline now = now + ticker.period :=
      if_pos (by omega)
    obtain ⟨single, moved⟩ := ticker.firingsFrom_of_lag lag
    obtain ⟨noneLeft, stays⟩ :=
      ticker.firingsFrom_of_lt (show now < now + ticker.period by omega)
    rw [follows, single, moved, noneLeft, stays]
    exact ⟨rfl, rfl⟩
  · have follows :
        ticker.following deadline now = deadline + ticker.period :=
      if_neg (by omega)
    obtain ⟨counted, moved⟩ :=
      ticker.firingsFrom_of_no_lag reached (Nat.not_lt.mp lag)
    rw [follows]
    by_cases ahead : now < deadline + ticker.period
    · have noOther : (now - deadline) / ticker.period = 0 :=
        Nat.div_eq_of_lt (by omega)
      obtain ⟨noneLeft, stays⟩ := ticker.firingsFrom_of_lt ahead
      rw [moved, counted, noOther, noneLeft, stays]
      exact ⟨rfl, by omega⟩
    · -- The next deadline is closer, so nothing is dropped there either.
      obtain ⟨countedNext, movedNext⟩ :=
        ticker.firingsFrom_of_no_lag (Nat.not_lt.mp ahead) (by omega)
      have onePeriod :
          (now - deadline) / ticker.period =
            (now - (deadline + ticker.period)) / ticker.period + 1 := by
        rw [← Nat.sub_sub]
        exact Nat.div_eq_sub_div positive (by omega)
      have oneMore :
          ticker.firingsFrom now deadline =
            ticker.firingsFrom now (deadline + ticker.period) + 1 := by
        rw [counted, countedNext, onePeriod]
      rw [moved, movedNext, oneMore, Nat.add_mul, Nat.one_mul]
      exact ⟨rfl, by omega⟩

theorem poll_eq_false_iff :
    (ticker.poll now).1 = false ↔ ticker.due? now = none :=
  Bool.eq_false_iff.trans Option.not_isSome_iff_eq_none

theorem fire_of_not_due (notDue : ticker.due? now = none) :
    ticker.fire now = ticker := by
  simp only [fire, notDue]

theorem drained_of_not_due (notDue : ticker.due? now = none) :
    ticker.firings now = 0 ∧ ticker.drained now = ticker := by
  have ahead := due?_eq_none_iff.mp notDue
  cases ticker with
  | mk period positive next =>
      cases next with
      | none => exact ⟨rfl, rfl⟩
      | some deadline =>
          obtain ⟨noneLeft, stays⟩ :=
            firingsFrom_of_lt ⟨period, positive, some deadline⟩
              (ahead deadline rfl)
          simp only [firings, drained, Option.map_some, noneLeft, stays,
            and_self]

theorem drained_of_due (isDue : (ticker.due? now).isSome) :
    ticker.firings now = (ticker.fire now).firings now + 1 ∧
      ticker.drained now = (ticker.fire now).drained now := by
  obtain ⟨deadline, found⟩ := Option.isSome_iff_exists.mp isDue
  obtain ⟨scheduled, reached⟩ := le_of_due? found
  obtain ⟨oneMore, sameEnd⟩ := ticker.firingsFrom_of_le reached
  simp only [firings, drained, fire, found, scheduled, Option.map_some]
  exact ⟨oneMore, congrArg _ (congrArg some sameEnd)⟩

/-! ## All polls -/

/-- Draining ends, whatever the ticker and the moment: there is one firing fewer to come
after every one. -/
theorem drains_drained (ticker : Ticker) (now : Nat) :
    ticker.Drains now (ticker.firings now) (ticker.drained now) := by
  by_cases isDue : (ticker.due? now).isSome
  · obtain ⟨oneMore, sameEnd⟩ := drained_of_due isDue
    rw [oneMore, sameEnd]
    exact .again isDue (drains_drained (ticker.fire now) now)
  · have stopped : (ticker.poll now).1 = false := Bool.eq_false_iff.mpr isDue
    have still : ticker.Drains now 0 (ticker.fire now) := .still stopped
    have notDue := poll_eq_false_iff.mp stopped
    obtain ⟨noneLeft, stays⟩ := drained_of_not_due notDue
    rw [fire_of_not_due notDue] at still
    rw [noneLeft, stays]
    exact still
termination_by ticker.firings now
decreasing_by omega

/-- What draining comes to depends on the ticker and the moment alone. -/
theorem Drains.eq (drains : ticker.Drains now count after) :
    count = ticker.firings now ∧ after = ticker.drained now := by
  induction drains with
  | @still ticker stopped =>
      have notDue := poll_eq_false_iff.mp stopped
      obtain ⟨noneLeft, stays⟩ := drained_of_not_due notDue
      exact ⟨noneLeft.symm, (fire_of_not_due notDue).trans stays.symm⟩
  | again fired rest inductionHypothesis =>
      obtain ⟨oneMore, sameEnd⟩ := drained_of_due fired
      obtain ⟨sameCount, sameAfter⟩ := inductionHypothesis
      exact ⟨(congrArg (· + 1) sameCount).trans oneMore.symm,
        sameAfter.trans sameEnd.symm⟩

theorem drains_iff :
    ticker.Drains now count after ↔
      count = ticker.firings now ∧ after = ticker.drained now := by
  constructor
  · exact Drains.eq
  · rintro ⟨rfl, rfl⟩
    exact ticker.drains_drained now

/-- A drained ticker has nothing due. -/
theorem Drains.due?_eq_none (drains : ticker.Drains now count after) :
    after.due? now = none := by
  induction drains with
  | @still ticker stopped =>
      have notDue := poll_eq_false_iff.mp stopped
      exact (congrArg (·.due? now) (fire_of_not_due notDue)).trans notDue
  | again _ _ inductionHypothesis => exact inductionHypothesis

theorem due?_drained (ticker : Ticker) (now : Nat) :
    (ticker.drained now).due? now = none :=
  (ticker.drains_drained now).due?_eq_none

/-- A limit on the number of firings does not show as long as it is not below what draining
takes. -/
theorem Drains.drainFrom_eq
    (drains : ticker.Drains now count after) (spare counted : Nat) :
    drainFrom now (count + spare) counted ticker =
      (counted + count, after) := by
  induction drains generalizing counted with
  | @still ticker stopped =>
      have stays : (ticker.poll now).2 = ticker :=
        fire_of_not_due (poll_eq_false_iff.mp stopped)
      rw [stays, Nat.zero_add, Nat.add_zero]
      cases spare with
      | zero => rfl
      | succ spare => exact if_neg (Bool.eq_false_iff.mp stopped)
  | @again ticker after count fired rest inductionHypothesis =>
      have isDue : (ticker.due? now).isSome := fired
      rw [Nat.add_right_comm, drainFrom, if_pos isDue]
      exact (inductionHypothesis (counted + 1)).trans
        (congrArg (·, after) (by omega))

theorem drain_eq (ticker : Ticker) (now spare : Nat) :
    ticker.drain now (ticker.firings now + spare) =
      (ticker.firings now, ticker.drained now) := by
  have drained := (ticker.drains_drained now).drainFrom_eq spare 0
  rw [Nat.zero_add] at drained
  exact drained

/-! ## Bound and phase -/

theorem firingsFrom_le (ticker : Ticker) (now deadline : Nat) :
    ticker.firingsFrom now deadline ≤ maximalLag / ticker.period + 2 := by
  by_cases ahead : now < deadline
  · rw [(ticker.firingsFrom_of_lt ahead).1]
    exact Nat.zero_le _
  · by_cases lag : deadline + ticker.period + maximalLag < now
    · rw [(ticker.firingsFrom_of_lag lag).1]
      exact Nat.le_add_left 1 (maximalLag / ticker.period + 1)
    · have counted :=
        (ticker.firingsFrom_of_no_lag (Nat.not_lt.mp ahead)
          (Nat.not_lt.mp lag)).1
      have behind : now - deadline ≤ maximalLag + ticker.period := by omega
      have divided := Nat.div_le_div_right (c := ticker.period) behind
      rw [Nat.add_div_right _ ticker.period_pos] at divided
      rw [counted]
      omega

theorem firings_le (ticker : Ticker) (now : Nat) :
    ticker.firings now ≤ maximalLag / ticker.period + 2 := by
  unfold firings
  split
  · exact Nat.zero_le _
  · exact ticker.firingsFrom_le now _

/-! ## Rates -/

/-- Take a ticker for any rate, with any deadline or with none, and poll it at any moment
until nothing is due.  This ends, in one way only, and a limit on the number of firings
changes nothing unless it is lower than that number.  A suspended ticker and one whose
deadline lies ahead stay what they are.  One that is too far behind fires once and is due
again a period from now.  Any other fires once for each deadline that has passed and
keeps its phase.  Afterwards the deadline lies ahead, and the number of firings is bounded
by the lag that is tolerated. -/
theorem drains_exactly (hertz : UInt32) (next : Option Nat) (now : Nat) :
    let period := max 1 (second / max hertz.toNat 1)
    let ticker : Ticker := { ofRate hertz with next := next }
    let firings := ticker.firings now
    let drained := ticker.drained now
    ticker.period = period ∧
      drained.period = period ∧
      (∀ count after,
        ticker.Drains now count after ↔
          count = firings ∧ after = drained) ∧
      (∀ spare, ticker.drain now (firings + spare) = (firings, drained)) ∧
      (next = none → firings = 0 ∧ drained.next = none) ∧
      (∀ deadline, next = some deadline →
        (now < deadline → firings = 0 ∧ drained.next = some deadline) ∧
        (maximalLag < now - (deadline + period) →
          firings = 1 ∧ drained.next = some (now + period)) ∧
        (deadline ≤ now → now - (deadline + period) ≤ maximalLag →
          firings = (now - deadline) / period + 1 ∧
            drained.next = some (deadline + firings * period)) ∧
        ∃ later, drained.next = some later ∧ now < later) ∧
      firings ≤ maximalLag / period + 2 := by
  intro period ticker firings drained
  refine ⟨rfl, rfl, fun count after => drains_iff, ticker.drain_eq now,
    ?suspended, ?scheduled, ticker.firings_le now⟩
  case suspended =>
    rintro rfl
    exact ⟨rfl, rfl⟩
  case scheduled =>
    rintro deadline rfl
    have counted : firings = ticker.firingsFrom now deadline := rfl
    have moved : drained.next = some (ticker.deadlineFrom now deadline) := rfl
    rw [counted, moved]
    refine ⟨fun ahead => ?_, fun dropped => ?_, fun reached close => ?_, ?_⟩
    · obtain ⟨noneLeft, stays⟩ := ticker.firingsFrom_of_lt ahead
      exact ⟨noneLeft, congrArg some stays⟩
    · have lag : deadline + ticker.period + maximalLag < now := by
        change maximalLag < now - (deadline + ticker.period) at dropped
        omega
      obtain ⟨single, moved⟩ := ticker.firingsFrom_of_lag lag
      exact ⟨single, congrArg some moved⟩
    · have noLag : now ≤ deadline + ticker.period + maximalLag := by
        change now - (deadline + ticker.period) ≤ maximalLag at close
        omega
      obtain ⟨counted, moved⟩ :=
        ticker.firingsFrom_of_no_lag reached noLag
      exact ⟨counted, congrArg some moved⟩
    · have notDue := ticker.due?_drained now
      exact ⟨_, rfl, due?_eq_none_iff.mp notDue _ rfl⟩

/-- At the greatest lag nothing is dropped yet. -/
example :
    ({ ofRate 500 with next := some 2000000 } : Ticker).firings 104000000 =
        52 ∧
      ({ ofRate 500 with next := some 2000000 } : Ticker).firings 104000001 =
        1 := by
  decide

end Ticker

end ChipEight
