/-!
# Tickers

A repeating deadline that can be suspended and resumed.  Moments are counted in
nanoseconds from an arbitrary beginning.  A ticker never waits: its owner asks
it whether it is due.  Firings missed while the owner was busy are caught up
one by one, unless the owner is too far behind; then the rest is dropped.
-/

namespace ChipEight

/-- A period and the moment of the next firing, absent while suspended. -/
structure Ticker where
  period : Nat
  period_pos : 0 < period
  next : Option Nat
  deriving DecidableEq, Repr

namespace Ticker

/-- Nanoseconds in a second. -/
def second : Nat := 1000000000

/-- How far behind a firing may be before the ones missed are dropped. -/
def maximalLag : Nat := 100000000

/-- The whole nanoseconds between firings at a rate; at least one, and a rate of
zero counts as one. -/
def periodOf (hertz : UInt32) : Nat :=
  max 1 (second / max hertz.toNat 1)

theorem periodOf_pos (hertz : UInt32) : 0 < periodOf hertz := by
  unfold periodOf
  omega

/-- A suspended ticker for a rate. -/
def ofRate (hertz : UInt32) : Ticker where
  period := periodOf hertz
  period_pos := periodOf_pos hertz
  next := none

def isSuspended (ticker : Ticker) : Bool :=
  ticker.next.isNone

def suspend (ticker : Ticker) : Ticker :=
  { ticker with next := none }

/-- Schedules the first firing one period ahead; a ticker that runs keeps its
deadline. -/
def resume (ticker : Ticker) (now : Nat) : Ticker :=
  match ticker.next with
  | none => { ticker with next := some (now + ticker.period) }
  | some _ => ticker

/-- The deadline of a firing that is due by a moment. -/
def due? (ticker : Ticker) (now : Nat) : Option Nat :=
  ticker.next.filter (· ≤ now)

/-- The deadline behind one that fires at a moment. -/
def following (ticker : Ticker) (deadline now : Nat) : Nat :=
  if maximalLag < now - (deadline + ticker.period) then
    now + ticker.period
  else
    deadline + ticker.period

/-- The ticker after one firing, if one is due. -/
def fire (ticker : Ticker) (now : Nat) : Ticker :=
  match ticker.due? now with
  | some deadline =>
      { ticker with next := some (ticker.following deadline now) }
  | none => ticker

/-- How far the deadline of a due firing lies behind, counted from one; zero when
nothing is due. -/
def backlog (ticker : Ticker) (now : Nat) : Nat :=
  match ticker.due? now with
  | some deadline => now + 1 - deadline
  | none => 0

theorem backlog_suspend (ticker : Ticker) (now : Nat) :
    ticker.suspend.backlog now = 0 := rfl

theorem le_of_due? {ticker : Ticker} {now deadline : Nat}
    (isDue : ticker.due? now = some deadline) :
    ticker.next = some deadline ∧ deadline ≤ now := by
  unfold due? at isDue
  obtain ⟨scheduled, reached⟩ := Option.filter_eq_some_iff.mp isDue
  exact ⟨scheduled, of_decide_eq_true reached⟩

theorem due?_eq_some
    {ticker : Ticker} {now deadline : Nat}
    (scheduled : ticker.next = some deadline) (reached : deadline ≤ now) :
    ticker.due? now = some deadline := by
  rw [due?, scheduled, Option.filter_some, if_pos (by simpa using reached)]

theorem due?_eq_none
    {ticker : Ticker} {now deadline : Nat}
    (scheduled : ticker.next = some deadline) (ahead : now < deadline) :
    ticker.due? now = none := by
  rw [due?, scheduled, Option.filter_some, if_neg (by simpa using ahead)]

/-- Nothing is due just while the deadline lies ahead, if there is one. -/
theorem due?_eq_none_iff {ticker : Ticker} {now : Nat} :
    ticker.due? now = none ↔
      ∀ deadline, ticker.next = some deadline → now < deadline := by
  constructor
  · intro notDue deadline scheduled
    apply Nat.lt_of_not_le
    intro reached
    rw [due?_eq_some scheduled reached] at notDue
    cases notDue
  · intro ahead
    cases scheduled : ticker.next with
    | none => rw [due?, scheduled, Option.filter_none]
    | some deadline =>
        exact due?_eq_none scheduled (ahead deadline scheduled)

theorem lt_following (ticker : Ticker) {deadline now : Nat}
    (reached : deadline ≤ now) :
    deadline < ticker.following deadline now := by
  have := ticker.period_pos
  unfold following
  split <;> omega

/-- Every firing brings a ticker closer to having caught up. -/
theorem backlog_fire_lt {ticker : Ticker} {now : Nat}
    (isDue : (ticker.due? now).isSome) :
    (ticker.fire now).backlog now < ticker.backlog now := by
  obtain ⟨deadline, found⟩ := Option.isSome_iff_exists.mp isDue
  have reached := (le_of_due? found).2
  have later := ticker.lt_following reached
  simp only [backlog, fire, found]
  split
  · rename_i after isDueAgain
    have scheduled := (le_of_due? isDueAgain).1
    simp only [Option.some.injEq] at scheduled
    omega
  · omega

/-- Whether a firing was due, and the ticker after it. -/
def poll (ticker : Ticker) (now : Nat) : Bool × Ticker :=
  ((ticker.due? now).isSome, ticker.fire now)

/-- Fires until nothing is due any more, but at most a number of times, and
counts the firings on from a number. -/
def drainFrom (now : Nat) : Nat → Nat → Ticker → Nat × Ticker
  | 0, count, ticker => (count, ticker)
  | limit + 1, count, ticker =>
      if (ticker.due? now).isSome then
        drainFrom now limit (count + 1) (ticker.fire now)
      else
        (count, ticker)

/-- Fires until nothing is due any more, but at most a number of times; gives
the number of firings and the ticker after them. -/
def drain (ticker : Ticker) (now limit : Nat) : Nat × Ticker :=
  drainFrom now limit 0 ticker

end Ticker

end ChipEight
