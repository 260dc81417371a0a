import ChipEight.Proofs.Console.Batching
import ChipEight.Proofs.Ticker.Draining

/-!
# The rate a ticker keeps

A ticker is made for a rate, but what it holds is a period, a whole number of
nanoseconds.  Drained closely enough over a second, it fires once for every period that
fits in, whatever the moments of draining are.

The period is rounded down, so what was cut off is saved once for every firing.  All of it
together is the remainder of a second divided by the rate, and as long as that is smaller
than a period, the ticker fires as often as the rate says.  Otherwise it fires more often.
So `firings_in_second` has it: all rates up to the square root of the nanoseconds in a
second are kept, and sixty kilohertz, say, are not.
-/

namespace ChipEight

namespace Ticker

/-- Draining a ticker at one moment after the other: how often it fires in all, and the
ticker after that. -/
inductive DrainsAlong : Ticker → List Nat → Nat → Ticker → Prop
  | done {ticker : Ticker} : DrainsAlong ticker [] 0 ticker
  | drain {ticker between after : Ticker} {now count more : Nat}
      {later : List Nat} :
      ticker.Drains now count between →
      DrainsAlong between later more after →
      DrainsAlong ticker (now :: later) (count + more) after

variable {ticker after other : Ticker} {times : List Nat}
  {start finish span longer earlier now count counted : Nat}

/-- What draining along a list of moments comes to depends on the ticker and the moments
alone. -/
theorem DrainsAlong.eq
    (drains : ticker.DrainsAlong times count after)
    (drainsAgain : ticker.DrainsAlong times counted other) :
    counted = count ∧ other = after := by
  induction drains generalizing counted other with
  | done =>
      cases drainsAgain
      exact ⟨rfl, rfl⟩
  | drain here _ inductionHypothesis =>
      cases drainsAgain with
      | drain hereAgain laterAgain =>
          obtain ⟨sameCount, sameBetween⟩ := here.eq
          obtain ⟨sameCountAgain, sameBetweenAgain⟩ := hereAgain.eq
          subst sameCount sameBetween sameCountAgain sameBetweenAgain
          obtain ⟨sameMore, sameAfter⟩ := inductionHypothesis laterAgain
          exact ⟨congrArg _ sameMore, sameAfter⟩

/-! ## From one moment to the next -/

/-- Drained at the end of a longer span, a ticker fires once for each period that was
completed since the shorter one. -/
theorem drained_behind
    (ticker : Ticker) (start : Nat)
    (ordered : span ≤ longer) (close : longer ≤ span + maximalLag) :
    span / ticker.period +
          (ticker.behind start span).firings (start + longer) =
        longer / ticker.period ∧
      (ticker.behind start span).drained (start + longer) =
        ticker.behind start longer := by
  have positive := ticker.period_pos
  have shorterFits : span / ticker.period ≤ longer / ticker.period :=
    Nat.div_le_div_right ordered
  have deadlineLater := ticker.lt_next_behind start span
  by_cases ahead : longer < (span / ticker.period + 1) * ticker.period
  · have noneCompleted : longer / ticker.period = span / ticker.period :=
      Nat.le_antisymm
        (Nat.le_of_lt_succ ((Nat.div_lt_iff_lt_mul positive).mpr ahead))
        shorterFits
    have notDue : (ticker.behind start span).due? (start + longer) = none :=
      due?_eq_none rfl (by omega)
    obtain ⟨noneLeft, stays⟩ := drained_of_not_due notDue
    rw [noneLeft, stays, noneCompleted, behind, behind, noneCompleted]
    exact ⟨rfl, rfl⟩
  · have reached :
        (span / ticker.period + 1) * ticker.period ≤ longer :=
      Nat.not_lt.mp ahead
    obtain ⟨fires, moved⟩ :
        (ticker.behind start span).firings (start + longer) =
            (start + longer -
                (start + (span / ticker.period + 1) * ticker.period)) /
              ticker.period + 1 ∧
          (ticker.behind start span).deadlineFrom (start + longer)
              (start + (span / ticker.period + 1) * ticker.period) =
            start + (span / ticker.period + 1) * ticker.period +
              (ticker.behind start span).firings (start + longer) *
                ticker.period :=
      firingsFrom_of_no_lag _ (Nat.add_le_add_left reached start) (by
        change _ ≤ _ + ticker.period + _
        omega)
    have completed :
        span / ticker.period +
            (ticker.behind start span).firings (start + longer) =
          longer / ticker.period := by
      have oneCompleted : span / ticker.period < longer / ticker.period :=
        (Nat.le_div_iff_mul_le positive).mpr reached
      rw [Nat.add_sub_add_left, Nat.mul_comm, Nat.sub_mul_div] at fires
      omega
    refine ⟨completed, ?_⟩
    rw [Nat.add_assoc, ← Nat.add_mul, Nat.add_right_comm, completed]
      at moved
    exact congrArg
      (fun deadline => ({ ticker with next := some deadline } : Ticker))
      moved

/-- The same between two moments, of which both may lie before the start. -/
theorem drains_behind
    (ticker : Ticker)
    (ordered : earlier - start ≤ now - start)
    (close : now ≤ earlier + maximalLag) :
    ∃ count,
      (ticker.behind start (earlier - start)).Drains now count
          (ticker.behind start (now - start)) ∧
        (earlier - start) / ticker.period + count =
          (now - start) / ticker.period := by
  have drains :=
    (ticker.behind start (earlier - start)).drains_drained now
  by_cases begun : start ≤ now
  · have reached : start + (now - start) = now := by omega
    obtain ⟨completed, moved⟩ :=
      ticker.drained_behind start ordered (by omega)
    rw [reached] at completed moved
    rw [moved] at drains
    exact ⟨_, drains, completed⟩
  · have sameSpan : earlier - start = now - start := by omega
    have notDue :
        (ticker.behind start (earlier - start)).due? now = none := by
      have deadlineLater :=
        ticker.lt_next_behind start (earlier - start)
      exact due?_eq_none rfl (by omega)
    obtain ⟨noneLeft, stays⟩ := drained_of_not_due notDue
    rw [noneLeft, stays, sameSpan] at drains
    rw [sameSpan]
    exact ⟨0, drains, rfl⟩

/-! ## All moments -/

theorem drainsAlong_behind
    (ticker : Ticker)
    (ordered : (earlier :: times).IsChain fun earlier later =>
      earlier - start ≤ later - start)
    (close : (earlier :: times).IsChain fun earlier later =>
      later ≤ earlier + maximalLag)
    (last : (earlier :: times).getLast? = some finish) :
    ∃ count,
      (ticker.behind start (earlier - start)).DrainsAlong times count
          (ticker.behind start (finish - start)) ∧
        (earlier - start) / ticker.period + count =
          (finish - start) / ticker.period := by
  induction times generalizing earlier with
  | nil =>
      cases last
      exact ⟨0, .done, rfl⟩
  | cons now rest inductionHypothesis =>
      obtain ⟨orderedHere, orderedLater⟩ :=
        List.isChain_cons_cons.mp ordered
      obtain ⟨closeHere, closeLater⟩ := List.isChain_cons_cons.mp close
      rw [List.getLast?_cons_cons] at last
      obtain ⟨count, here, counts⟩ :=
        ticker.drains_behind orderedHere closeHere
      obtain ⟨more, later, countsLater⟩ :=
        inductionHypothesis orderedLater closeLater last
      refine ⟨count + more, .drain here later, ?_⟩
      rw [← Nat.add_assoc, counts, countsLater]

/-- A ticker that was resumed and is attended to fires once for every period that fits in
the time since. -/
theorem drainsAlong_attended
    (suspended : ticker.next = none)
    (attended : Attended start finish times) :
    (ticker.resume start).DrainsAlong times
      ((finish - start) / ticker.period)
      (ticker.behind start (finish - start)) := by
  obtain ⟨ordered, close, last⟩ := attended
  have resumed :
      ticker.resume start = ticker.behind start (start - start) := by
    simp only [resume, suspended, behind, Nat.sub_self, Nat.zero_div,
      Nat.zero_add, Nat.one_mul]
  cases times with
  | nil => cases last
  | cons first rest =>
      have orderedSpans :
          (start :: first :: rest).IsChain fun earlier later =>
            earlier - start ≤ later - start := by
        refine List.isChain_cons_cons.mpr ⟨by omega, ?_⟩
        exact ordered.imp fun _ _ before => Nat.sub_le_sub_right before start
      obtain ⟨count, drains, counts⟩ :=
        ticker.drainsAlong_behind orderedSpans close
          (List.getLast?_cons_cons.trans last)
      rw [Nat.sub_self, Nat.zero_div, Nat.zero_add] at counts
      rw [resumed, ← counts]
      exact drains

/-- Ten moments up to a second, each at the greatest lag behind the one before. -/
def everyLag : List Nat :=
  (List.range 10).map fun past => (past + 1) * maximalLag

theorem attended_everyLag : Attended 0 (0 + second) everyLag := by
  refine ⟨?_, ?_, rfl⟩ <;> decide

/-! ## Rates -/

/-- Dividing by a quotient gives at least the divisor back. -/
theorem le_second_div
    {rate : Nat} (positive : 0 < rate) (notAbove : rate ≤ second) :
    rate ≤ second / (second / rate) := by
  have period : 0 < second / rate := Nat.div_pos notAbove positive
  exact (Nat.le_div_iff_mul_le period).mpr (Nat.mul_div_le second rate)

/-- It gives just the divisor back if the remainder has no room for another quotient. -/
theorem second_div_eq_iff
    {rate : Nat} (positive : 0 < rate) (notAbove : rate ≤ second) :
    second / (second / rate) = rate ↔
      second % rate < second / rate := by
  have period : 0 < second / rate := Nat.div_pos notAbove positive
  have notBelow := le_second_div positive notAbove
  have parts := Nat.div_add_mod second rate
  have oneMore :
      (rate + 1) * (second / rate) =
        rate * (second / rate) + second / rate := Nat.succ_mul _ _
  calc
    second / (second / rate) = rate
        ↔ second / (second / rate) < rate + 1 := by omega
    _ ↔ second < (rate + 1) * (second / rate) :=
        Nat.div_lt_iff_lt_mul period
    _ ↔ second % rate < second / rate := by omega

theorem second_mod_lt_of_sq_le
    {rate : Nat} (positive : 0 < rate) (small : rate * rate ≤ second) :
    second % rate < second / rate :=
  Nat.lt_of_lt_of_le (Nat.mod_lt second positive)
    ((Nat.le_div_iff_mul_le positive).mpr small)

theorem periodOf_of_rateValid
    {hertz : UInt32} (valid : Settings.rateValid hertz = true) :
    0 < hertz.toNat ∧ hertz.toNat ≤ second ∧
      periodOf hertz = second / hertz.toNat := by
  obtain ⟨nonzero, notAbove⟩ :
      hertz ≠ 0 ∧ hertz.toNat ≤ second := by
    simpa [Settings.rateValid] using valid
  have positive : 0 < hertz.toNat :=
    Nat.pos_of_ne_zero fun isZero => nonzero (UInt32.toNat_inj.mp isZero)
  have period : 0 < second / hertz.toNat := Nat.div_pos notAbove positive
  refine ⟨positive, notAbove, ?_⟩
  rw [periodOf, Nat.max_eq_left positive, Nat.max_eq_right period]

theorem rateValid_of_validate
    {settings : Settings} (accepted : settings.validate = .ok ()) :
    Settings.rateValid settings.cycleRate = true := by
  cases valid : Settings.rateValid settings.cycleRate with
  | true => rfl
  | false =>
      rw [Settings.validate, valid] at accepted
      cases accepted

/-- Let a rate be accepted, and a ticker for it be resumed and then drained closely enough,
up to a second later.  Whenever it is drained, it fires in all as often as the period fits
in a second, which is at least as often as the rate says.  It is just as often if what is
left when a second is divided by the rate is smaller than the period, and only then; so it
is for all rates up to the square root of the nanoseconds in a second. -/
theorem firings_in_second
    (settings : Settings) (accepted : settings.validate = .ok ())
    (start : Nat) (times : List Nat)
    (attended : Attended start (start + second) times) :
    let rate := settings.cycleRate.toNat
    let ticker := (ofRate settings.cycleRate).resume start
    (∃ count after, ticker.DrainsAlong times count after) ∧
      ∀ count after, ticker.DrainsAlong times count after →
        count = second / (second / rate) ∧
          rate ≤ count ∧
          (count = rate ↔ second % rate < second / rate) ∧
          (rate * rate ≤ second → count = rate) := by
  intro rate ticker
  obtain ⟨positive, notAbove, isPeriod⟩ :=
    periodOf_of_rateValid (rateValid_of_validate accepted)
  have drains :=
    drainsAlong_attended (rfl : (ofRate settings.cycleRate).next = none)
      attended
  have counts :
      (start + second - start) / (ofRate settings.cycleRate).period =
        second / (second / rate) := by
    rw [Nat.add_sub_cancel_left, ← isPeriod]
    rfl
  rw [counts] at drains
  refine ⟨⟨_, _, drains⟩, fun count after drainsAgain => ?_⟩
  obtain ⟨rfl, _⟩ := drains.eq drainsAgain
  have exactly := second_div_eq_iff positive notAbove
  refine ⟨rfl, le_second_div positive notAbove, exactly, fun small => ?_⟩
  exact exactly.mpr (second_mod_lt_of_sq_le positive small)

/-- Forty-eight kilohertz leave a remainder, but a small one. -/
theorem firings_in_second_fortyEightKilohertz :
    let settings : Settings := { cycleRate := 48000 }
    let ticker := (ofRate settings.cycleRate).resume 0
    settings.validate = .ok () ∧
      Attended 0 (0 + second) everyLag ∧
      second % 48000 = 16000 ∧ second / 48000 = 20833 ∧
      (∃ after, ticker.DrainsAlong everyLag 48000 after) ∧
      ∀ count after,
        ticker.DrainsAlong everyLag count after → count = 48000 := by
  intro settings ticker
  have accepted : settings.validate = .ok () := rfl
  obtain ⟨⟨count, after, drains⟩, counts⟩ :=
    firings_in_second settings accepted 0 everyLag attended_everyLag
  have isRate : ∀ count after,
      ticker.DrainsAlong everyLag count after → count = 48000 := by
    intro count after drains
    obtain ⟨_, _, exactly, _⟩ := counts count after drains
    exact exactly.mpr (by decide)
  have same : count = 48000 := isRate count after drains
  subst same
  exact ⟨accepted, attended_everyLag, rfl, rfl, ⟨after, drains⟩, isRate⟩

/-- Sixty kilohertz are accepted as well, but there is room for two firings more. -/
theorem overcounts_sixtyKilohertz :
    let settings : Settings := { cycleRate := 60000 }
    let ticker := (ofRate settings.cycleRate).resume 0
    settings.validate = .ok () ∧
      Attended 0 (0 + second) everyLag ∧
      (∃ after, ticker.DrainsAlong everyLag 60002 after) ∧
      ∀ count after,
        ticker.DrainsAlong everyLag count after →
          count ≠ settings.cycleRate.toNat := by
  intro settings ticker
  have counts :
      (0 + second - 0) / (ofRate settings.cycleRate).period = 60002 := by
    decide
  have drains :=
    drainsAlong_attended (rfl : (ofRate settings.cycleRate).next = none)
      attended_everyLag
  rw [counts] at drains
  refine ⟨rfl, attended_everyLag, ⟨_, drains⟩, ?_⟩
  intro count after drainsAgain
  obtain ⟨rfl, _⟩ := drains.eq drainsAgain
  decide

end Ticker

end ChipEight
