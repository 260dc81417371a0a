import ChipEight.Proofs.Console.Phases
import Mathlib.Data.List.Chain

/-!
# Catching up in batches

A console that runs is told the time now and then and fires whatever has become
due.  What it has done by some moment does not depend on the moments it was told
before, as long as they follow each other closely enough: `catchUp_batching`.

The common outcome is `timeline`.  It goes through a span of time nanosecond by
nanosecond and knows of no deadlines: an instruction is due at every multiple of
the one period and the timers at every multiple of the other, the instruction
first where both are.  Two facts tie catching up to it.  Catching up to a moment
may be interrupted at any earlier one (`catchUpFrom_split`), and catching up by a
single nanosecond does what is due in it (`catchUpFrom_timeline_succ`).
-/

namespace ChipEight

namespace Ticker

/-- The ticker with its deadline one period later. -/
def advance (ticker : Ticker) : Ticker :=
  { ticker with next := ticker.next.map (· + ticker.period) }

/-- The ticker with its deadline at the first multiple of its period behind a
span of time, counted from a start. -/
def behind (ticker : Ticker) (start span : Nat) : Ticker :=
  { ticker with
    next := some (start + (span / ticker.period + 1) * ticker.period) }

/-- Whether a firing at a moment would still be close enough to its deadline to
drop none. -/
def OnPace (ticker : Ticker) (now : Nat) : Prop :=
  ∀ deadline, ticker.next = some deadline →
    now ≤ deadline + ticker.period + maximalLag

theorem OnPace.mono
    {ticker : Ticker} {now earlier : Nat}
    (onPace : ticker.OnPace now) (before : earlier ≤ now) :
    ticker.OnPace earlier := by
  intro deadline scheduled
  exact Nat.le_trans before (onPace deadline scheduled)

theorem OnPace.advance
    {ticker : Ticker} {now : Nat} (onPace : ticker.OnPace now) :
    ticker.advance.OnPace now := by
  intro deadline scheduled
  obtain ⟨earlier, found, moved⟩ := Option.map_eq_some_iff.mp scheduled
  have close := onPace earlier found
  change now ≤ deadline + ticker.period + maximalLag
  omega

theorem onPace_suspend (ticker : Ticker) (now : Nat) :
    ticker.suspend.OnPace now := by
  intro deadline scheduled
  cases scheduled

/-- A firing in time moves the deadline by one period. -/
theorem fire_eq_advance
    {ticker : Ticker} {now : Nat} (onPace : ticker.OnPace now)
    (isDue : (ticker.due? now).isSome) :
    ticker.fire now = ticker.advance := by
  obtain ⟨deadline, found⟩ := Option.isSome_iff_exists.mp isDue
  obtain ⟨scheduled, _⟩ := le_of_due? found
  have close := onPace deadline scheduled
  have noneDropped : ¬ maximalLag < now - (deadline + ticker.period) := by
    omega
  simp only [fire, found, following, if_neg noneDropped, advance,
    scheduled, Option.map_some]

theorem due?_mono
    {ticker : Ticker} {now later deadline : Nat}
    (isDue : ticker.due? now = some deadline) (before : now ≤ later) :
    ticker.due? later = some deadline := by
  obtain ⟨scheduled, reached⟩ := le_of_due? isDue
  exact due?_eq_some scheduled (Nat.le_trans reached before)

/-- What becomes due between two moments lies behind the earlier one. -/
theorem lt_of_due?_later
    {ticker : Ticker} {now later deadline : Nat}
    (notDue : ticker.due? now = none)
    (isDueLater : ticker.due? later = some deadline) :
    now < deadline :=
  due?_eq_none_iff.mp notDue deadline (le_of_due? isDueLater).1

/-- A deadline behind a span lies behind it. -/
theorem lt_next_behind (ticker : Ticker) (start span : Nat) :
    start + span <
      start + (span / ticker.period + 1) * ticker.period := by
  have lastMultiple := Nat.lt_div_mul_add (a := span) ticker.period_pos
  rw [Nat.add_mul, Nat.one_mul]
  omega

theorem onPace_behind
    (ticker : Ticker) {start span now : Nat}
    (close : now ≤ start + span + maximalLag) :
    (ticker.behind start span).OnPace now := by
  intro deadline scheduled
  have later := ticker.lt_next_behind start span
  simp only [behind, Option.some.injEq] at scheduled
  omega

/-- A span that grows to a multiple of the period reaches the deadline behind
it. -/
theorem behind_succ_of_dvd
    {ticker : Ticker} (start : Nat) {span : Nat}
    (multiple : ticker.period ∣ span + 1) :
    (ticker.behind start span).next = some (start + span + 1) ∧
      (ticker.behind start span).advance =
        ticker.behind start (span + 1) := by
  have counted : (span + 1) / ticker.period = span / ticker.period + 1 :=
    Nat.succ_div_of_dvd multiple
  have reached :
      (span / ticker.period + 1) * ticker.period = span + 1 := by
    rw [← counted]
    exact Nat.div_mul_cancel multiple
  constructor
  · simp only [behind, reached, Nat.add_assoc]
  · simp only [behind, advance, Option.map_some, counted]
    rw [Nat.add_mul (span / ticker.period + 1) 1, Nat.one_mul,
      Nat.add_assoc]

theorem fire_behind_of_dvd
    {ticker : Ticker} (start : Nat) {span : Nat}
    (multiple : ticker.period ∣ span + 1) :
    (ticker.behind start span).fire (start + span + 1) =
      (ticker.behind start span).advance := by
  have scheduled := (ticker.behind_succ_of_dvd start multiple).1
  apply fire_eq_advance
  · exact ticker.onPace_behind (by unfold maximalLag; omega)
  · rw [due?_eq_some scheduled (Nat.le_refl _)]
    rfl

/-- A span that grows to anything else leaves the deadline behind it where it
is. -/
theorem behind_succ_of_not_dvd
    {ticker : Ticker} (start : Nat) {span : Nat}
    (other : ¬ ticker.period ∣ span + 1) :
    ticker.behind start span = ticker.behind start (span + 1) := by
  have counted : (span + 1) / ticker.period = span / ticker.period :=
    Nat.succ_div_of_not_dvd other
  simp only [behind, counted]

theorem behind_zero
    {ticker : Ticker} {start : Nat}
    (scheduled : ticker.next = some (start + ticker.period)) :
    ticker.behind start 0 = ticker := by
  simp only [behind, Nat.zero_div, Nat.zero_add, Nat.one_mul,
    ← scheduled]

end Ticker

namespace Console

/-! ## What a span of time asks for -/

/-- What one firing does to the machine, and what follows from it: a touched
screen becomes the pending frame, a fault pauses the console, a sound that ends
is announced.  The clocks are left alone. -/
def act (console : Console) : Firing → Console × List Signal
  | .cycle =>
      match console.machine.step with
      | (machine, .ok _) =>
          ({ console with
              machine := machine
              pending :=
                if machine.state.redraw then
                  some machine.state.screen
                else
                  console.pending },
            [])
      | (machine, .error fault) =>
          ({ console with
              machine := machine
              phase := .paused
              published := .paused },
            [.noted (.halted fault),
              .noted (.phaseChanged console.phase .paused),
              .entered .paused])
  | .timer =>
      match console.machine.tick with
      | (machine, expired) =>
          ({ console with machine := machine },
            if expired then [.noted .soundExpired, .sounded] else [])

/-- Performs firings one after the other for as long as the console runs. -/
def perform (console : Console) : List Firing → Console × List Signal
  | [] => (console, [])
  | firing :: rest =>
      if console.phase = .running then
        let (acted, sent) := console.act firing
        let (last, later) := acted.perform rest
        (last, sent ++ later)
      else
        (console, [])

/-- What one clock asks for in the nanosecond behind a span. -/
def askedFor (period : Nat) (firing : Firing) (span : Nat) : List Firing :=
  if period ∣ span + 1 then [firing] else []

/-- What both clocks ask for in the nanosecond behind a span, the instruction
before the timers. -/
def firingsBehind (console : Console) (span : Nat) : List Firing :=
  askedFor console.cycle.period .cycle span ++
    askedFor console.timer.period .timer span

/-- What both clocks ask for in a span of time, the earliest first. -/
def agenda (console : Console) (span : Nat) : List Firing :=
  (List.range span).flatMap console.firingsBehind

/-- The console with other clocks, which stand still unless it runs. -/
def clocked (console : Console) (cycle timer : Ticker) : Console :=
  if console.phase = .running then
    { console with cycle := cycle, timer := timer }
  else
    { console with cycle := cycle.suspend, timer := timer.suspend }

/-- What becomes of a console in a span of time, counted from a start: the
agenda of the span is performed, and the clocks that still run are set to their
first deadline behind it. -/
def timeline (console : Console) (start span : Nat) :
    Console × List Signal :=
  let (last, sent) := console.perform (console.agenda span)
  (last.clocked (console.cycle.behind start span)
      (console.timer.behind start span),
    sent)

/-! ## Performing firings -/

section Performing

variable {console : Console}

theorem perform_of_ne_running
    (standing : console.phase ≠ .running) (firings : List Firing) :
    console.perform firings = (console, []) := by
  cases firings with
  | nil => rfl
  | cons firing rest => exact if_neg standing

theorem perform_singleton
    (running : console.phase = .running) (firing : Firing) :
    console.perform [firing] = console.act firing := by
  simp only [perform, if_pos running, List.append_nil]

theorem perform_append
    (console : Console) (earlier later : List Firing) :
    console.perform (earlier ++ later) =
      (((console.perform earlier).1.perform later).1,
        (console.perform earlier).2 ++
          ((console.perform earlier).1.perform later).2) := by
  induction earlier generalizing console with
  | nil => rfl
  | cons firing rest inductionHypothesis =>
      by_cases running : console.phase = .running
      · simp only [List.cons_append, perform, if_pos running,
          inductionHypothesis, List.append_assoc]
      · simp only [perform_of_ne_running running, List.nil_append]

theorem clocked_of_running
    (running : console.phase = .running) (cycle timer : Ticker) :
    console.clocked cycle timer =
      { console with cycle := cycle, timer := timer } :=
  if_pos running

theorem phase_clocked (console : Console) (cycle timer : Ticker) :
    (console.clocked cycle timer).phase = console.phase := by
  unfold clocked
  split <;> rfl

theorem clocked_self (running : console.phase = .running) :
    console.clocked console.cycle console.timer = console :=
  if_pos running

/-- An instruction that is executed in time. -/
theorem fireCycle_clocked
    (running : console.phase = .running) {cycle : Ticker} (timer : Ticker)
    {now : Nat} (inTime : cycle.fire now = cycle.advance) :
    (console.clocked cycle timer).fireCycle now =
      ((console.act .cycle).1.clocked cycle.advance timer,
        (console.act .cycle).2) := by
  rcases stepped : console.machine.step with ⟨machine, fault | executed⟩
  -- After a fault both clocks stand still, whether they had moved on or not.
  · simp only [fireCycle, act, stepped, enter, suspendClocks, clocked,
      running, reduceCtorEq, if_true, if_false]
    rfl
  · simp only [fireCycle, act, stepped, clocked, running, if_true, inTime]

/-- A countdown that happens in time. -/
theorem fireTimer_clocked
    (running : console.phase = .running) (cycle : Ticker) {timer : Ticker}
    {now : Nat} (inTime : timer.fire now = timer.advance) :
    (console.clocked cycle timer).fireTimer now =
      ((console.act .timer).1.clocked cycle timer.advance,
        (console.act .timer).2) := by
  simp only [fireTimer, act, clocked, running, if_true, inTime]

end Performing

/-! ## Which clock fires -/

section Firing

variable {console : Console} {now cycle timer : Nat}

theorem firing?_of_ne_running
    (standing : console.phase ≠ .running) (now : Nat) :
    console.firing? now = none :=
  if_neg standing

theorem firing?_cycle
    (running : console.phase = .running)
    (cycleNext : console.cycle.next = some cycle)
    (timerNext : console.timer.next = some timer)
    (reached : cycle ≤ now) (first : cycle ≤ timer) :
    console.firing? now = some .cycle := by
  rw [firing?, if_pos running, Ticker.due?_eq_some cycleNext reached]
  by_cases timerReached : timer ≤ now
  · rw [Ticker.due?_eq_some timerNext timerReached]
    exact if_neg (Nat.not_lt.mpr first)
  · rw [Ticker.due?_eq_none timerNext (Nat.lt_of_not_le timerReached)]

theorem firing?_timer
    (running : console.phase = .running)
    (cycleNext : console.cycle.next = some cycle)
    (timerNext : console.timer.next = some timer)
    (reached : timer ≤ now) (ahead : now < cycle) :
    console.firing? now = some .timer := by
  rw [firing?, if_pos running, Ticker.due?_eq_none cycleNext ahead,
    Ticker.due?_eq_some timerNext reached]

theorem firing?_none
    (running : console.phase = .running)
    (cycleNext : console.cycle.next = some cycle)
    (timerNext : console.timer.next = some timer)
    (cycleAhead : now < cycle) (timerAhead : now < timer) :
    console.firing? now = none := by
  rw [firing?, if_pos running, Ticker.due?_eq_none cycleNext cycleAhead,
    Ticker.due?_eq_none timerNext timerAhead]

/-- The clock that fires first is the same at every later moment. -/
theorem firing?_mono
    {firing : Firing} {later : Nat}
    (found : console.firing? now = some firing) (before : now ≤ later) :
    console.firing? later = some firing := by
  have running := running_of_firing? found
  rw [firing?, if_pos running] at found ⊢
  cases cycleDue : console.cycle.due? now with
  | none =>
      cases timerDue : console.timer.due? now with
      | none => simp [cycleDue, timerDue] at found
      | some timer =>
          simp only [cycleDue, timerDue] at found
          rw [Ticker.due?_mono timerDue before]
          cases cycleDueLater : console.cycle.due? later with
          | none => exact found
          | some cycle =>
              have ahead := Ticker.lt_of_due?_later cycleDue cycleDueLater
              have reached := (Ticker.le_of_due? timerDue).2
              exact (if_pos (Nat.lt_of_le_of_lt reached ahead)).trans found
  | some cycle =>
      rw [Ticker.due?_mono cycleDue before]
      cases timerDue : console.timer.due? now with
      | none =>
          simp only [cycleDue, timerDue] at found
          cases timerDueLater : console.timer.due? later with
          | none => exact found
          | some timer =>
              have ahead := Ticker.lt_of_due?_later timerDue timerDueLater
              have reached := (Ticker.le_of_due? cycleDue).2
              have first : ¬ timer < cycle := by omega
              exact (if_neg first).trans found
      | some timer =>
          rw [Ticker.due?_mono timerDue before]
          simp only [cycleDue, timerDue] at found
          exact found

end Firing

/-! ## Catching up in two parts -/

/-- Whether firings at a moment would still be close enough to both deadlines to
drop none. -/
def OnPace (console : Console) (now : Nat) : Prop :=
  console.cycle.OnPace now ∧ console.timer.OnPace now

section Splitting

variable {console : Console} {now earlier later : Nat} {firing : Firing}

theorem onPace_clocked
    {cycle timer : Ticker}
    (cycleOnPace : cycle.OnPace now) (timerOnPace : timer.OnPace now) :
    (console.clocked cycle timer).OnPace now := by
  unfold clocked
  split
  · exact ⟨cycleOnPace, timerOnPace⟩
  · exact ⟨cycle.onPace_suspend now, timer.onPace_suspend now⟩

theorem OnPace.fire
    (onPace : console.OnPace now)
    (found : console.firing? now = some firing) :
    (console.fire now firing).1.OnPace now := by
  obtain ⟨cycleOnPace, timerOnPace⟩ := onPace
  have running := running_of_firing? found
  rw [← clocked_self running]
  cases firing with
  | cycle =>
      have inTime :=
        Ticker.fire_eq_advance cycleOnPace (due_of_firing?_cycle found)
      rw [Console.fire, fireCycle_clocked running console.timer inTime]
      exact onPace_clocked cycleOnPace.advance timerOnPace
  | timer =>
      have inTime :=
        Ticker.fire_eq_advance timerOnPace (due_of_firing?_timer found)
      rw [Console.fire, fireTimer_clocked running console.cycle inTime]
      exact onPace_clocked cycleOnPace timerOnPace.advance

/-- As long as a console is on pace it does not matter when it fires. -/
theorem OnPace.fire_eq
    (onPace : console.OnPace later) (before : earlier ≤ later)
    (found : console.firing? earlier = some firing) :
    console.fire later firing = console.fire earlier firing := by
  obtain ⟨cycleOnPace, timerOnPace⟩ := onPace
  have foundLater := firing?_mono found before
  cases firing with
  | cycle =>
      have inTime := Ticker.fire_eq_advance
        (cycleOnPace.mono before) (due_of_firing?_cycle found)
      have inTimeLater := Ticker.fire_eq_advance
        cycleOnPace (due_of_firing?_cycle foundLater)
      simp only [Console.fire, fireCycle, inTime, inTimeLater]
  | timer =>
      have inTime := Ticker.fire_eq_advance
        (timerOnPace.mono before) (due_of_firing?_timer found)
      have inTimeLater := Ticker.fire_eq_advance
        timerOnPace (due_of_firing?_timer foundLater)
      simp only [Console.fire, fireTimer, inTime, inTimeLater]

/-- Catching up may be interrupted at any earlier moment. -/
theorem catchUpFrom_split
    (onPace : console.OnPace later) (before : earlier ≤ later)
    (sent : List Signal) :
    catchUpFrom later (catchUpFrom earlier console sent).1
        (catchUpFrom earlier console sent).2 =
      catchUpFrom later console sent := by
  -- Every firing up to the earlier moment is also the first up to the later.
  induction console, sent using catchUpFrom.induct earlier with
  | case1 console sent nothing => rw [catchUpFrom_of_none nothing]
  | case2 console sent firing found inductionHypothesis =>
      have foundLater := firing?_mono found before
      have sameFire := onPace.fire_eq before found
      have onPaceAfter := onPace.fire foundLater
      rw [sameFire] at onPaceAfter
      rw [catchUpFrom_of_some found, catchUpFrom_of_some foundLater,
        sameFire]
      exact inductionHypothesis onPaceAfter

end Splitting

/-! ## Catching up by a nanosecond -/

section Instant

/-- The clocks of a console that stands still matter only by their periods. -/
theorem clocked_congr
    {console : Console} {cycle otherCycle timer otherTimer : Ticker}
    (sameRunning : console.phase = .running →
      cycle = otherCycle ∧ timer = otherTimer)
    (sameCycle : cycle.suspend = otherCycle.suspend)
    (sameTimer : timer.suspend = otherTimer.suspend) :
    console.clocked cycle timer =
      console.clocked otherCycle otherTimer := by
  by_cases running : console.phase = .running
  · obtain ⟨same, sameToo⟩ := sameRunning running
    rw [same, sameToo]
  · simp only [clocked, if_neg running, sameCycle, sameTimer]

/-- A clock that asks for nothing, or asks a console that stands still, gets
nothing done. -/
theorem perform_askedFor_of_idle
    {console : Console} {period span : Nat}
    (idle : ¬ (console.phase = .running ∧ period ∣ span + 1))
    (firing : Firing) :
    console.perform (askedFor period firing span) = (console, []) := by
  by_cases running : console.phase = .running
  · have nothingAsked : ¬ period ∣ span + 1 :=
      fun multiple => idle ⟨running, multiple⟩
    rw [askedFor, if_neg nothingAsked]
    rfl
  · exact perform_of_ne_running running _

theorem perform_askedFor_of_dvd
    {console : Console} {period span : Nat}
    (running : console.phase = .running) (multiple : period ∣ span + 1)
    (firing : Firing) :
    console.perform (askedFor period firing span) =
      console.act firing := by
  rw [askedFor, if_pos multiple]
  exact perform_singleton running firing

/-- What the first clock asks for in a nanosecond is done before anything
else. -/
theorem catchUpFrom_cycle
    (console : Console) (cycle timer : Ticker) (start span : Nat)
    (sent : List Signal) :
    let done := console.perform (askedFor cycle.period .cycle span)
    catchUpFrom (start + span + 1)
        (console.clocked (cycle.behind start span)
          (timer.behind start span))
        sent =
      catchUpFrom (start + span + 1)
        (done.1.clocked (cycle.behind start (span + 1))
          (timer.behind start span))
        (sent ++ done.2) := by
  intro done
  by_cases asks : console.phase = .running ∧ cycle.period ∣ span + 1
  · obtain ⟨running, multiple⟩ := asks
    obtain ⟨scheduled, moved⟩ := cycle.behind_succ_of_dvd start multiple
    have timerAhead := timer.lt_next_behind start span
    have found :
        (console.clocked (cycle.behind start span)
          (timer.behind start span)).firing? (start + span + 1) =
          some .cycle := by
      rw [clocked_of_running running]
      exact firing?_cycle running scheduled rfl (Nat.le_refl _) timerAhead
    have fired := fireCycle_clocked running
      (timer.behind start span) (cycle.fire_behind_of_dvd start multiple)
    have performed : done = console.act .cycle :=
      perform_askedFor_of_dvd running multiple .cycle
    rw [catchUpFrom_of_some found, fire, fired, performed, moved]
  · have performed : done = (console, []) :=
      perform_askedFor_of_idle asks .cycle
    have sameClocks :
        console.clocked (cycle.behind start span)
            (timer.behind start span) =
          console.clocked (cycle.behind start (span + 1))
            (timer.behind start span) := by
      refine clocked_congr (fun running => ⟨?_, rfl⟩) rfl rfl
      have other : ¬ cycle.period ∣ span + 1 :=
        fun multiple => asks ⟨running, multiple⟩
      exact cycle.behind_succ_of_not_dvd start other
    rw [performed, sameClocks, List.append_nil]

/-- What the second clock asks for in a nanosecond is done when the first has
nothing left to ask for. -/
theorem catchUpFrom_timer
    (console : Console) (cycle timer : Ticker) (start span : Nat)
    (sent : List Signal) :
    let done := console.perform (askedFor timer.period .timer span)
    catchUpFrom (start + span + 1)
        (console.clocked (cycle.behind start (span + 1))
          (timer.behind start span))
        sent =
      catchUpFrom (start + span + 1)
        (done.1.clocked (cycle.behind start (span + 1))
          (timer.behind start (span + 1)))
        (sent ++ done.2) := by
  intro done
  by_cases asks : console.phase = .running ∧ timer.period ∣ span + 1
  · obtain ⟨running, multiple⟩ := asks
    obtain ⟨scheduled, moved⟩ := timer.behind_succ_of_dvd start multiple
    have cycleAhead := cycle.lt_next_behind start (span + 1)
    have found :
        (console.clocked (cycle.behind start (span + 1))
          (timer.behind start span)).firing? (start + span + 1) =
          some .timer := by
      rw [clocked_of_running running]
      exact firing?_timer running rfl scheduled (Nat.le_refl _) cycleAhead
    have fired := fireTimer_clocked running
      (cycle.behind start (span + 1)) (timer.fire_behind_of_dvd start multiple)
    have performed : done = console.act .timer :=
      perform_askedFor_of_dvd running multiple .timer
    rw [catchUpFrom_of_some found, fire, fired, performed, moved]
  · have performed : done = (console, []) :=
      perform_askedFor_of_idle asks .timer
    have sameClocks :
        console.clocked (cycle.behind start (span + 1))
            (timer.behind start span) =
          console.clocked (cycle.behind start (span + 1))
            (timer.behind start (span + 1)) := by
      refine clocked_congr (fun running => ⟨rfl, ?_⟩) rfl rfl
      have other : ¬ timer.period ∣ span + 1 :=
        fun multiple => asks ⟨running, multiple⟩
      exact timer.behind_succ_of_not_dvd start other
    rw [performed, sameClocks, List.append_nil]

/-- Nothing is due up to the end of a span when both clocks are behind it. -/
theorem catchUpFrom_clocked_behind
    (console : Console) (cycle timer : Ticker) {start span now : Nat}
    (within : now ≤ start + span) (sent : List Signal) :
    catchUpFrom now
        (console.clocked (cycle.behind start span)
          (timer.behind start span))
        sent =
      (console.clocked (cycle.behind start span) (timer.behind start span),
        sent) := by
  apply catchUpFrom_of_none
  by_cases running : console.phase = .running
  · have cycleAhead := cycle.lt_next_behind start span
    have timerAhead := timer.lt_next_behind start span
    rw [clocked_of_running running]
    exact firing?_none running rfl rfl
      (Nat.lt_of_le_of_lt within cycleAhead)
      (Nat.lt_of_le_of_lt within timerAhead)
  · apply firing?_of_ne_running
    rw [phase_clocked]
    exact running

end Instant

/-! ## The timeline -/

section Timeline

variable (console : Console) (start : Nat)

theorem agenda_succ (span : Nat) :
    console.agenda (span + 1) =
      console.agenda span ++ console.firingsBehind span := by
  unfold agenda
  rw [List.range_succ, List.flatMap_append, List.flatMap_singleton]

/-- A span that is longer by a nanosecond. -/
theorem catchUpFrom_timeline_succ (span : Nat) :
    catchUpFrom (start + span + 1)
        (console.timeline start span).1 (console.timeline start span).2 =
      console.timeline start (span + 1) := by
  have ended : start + span + 1 ≤ start + (span + 1) := Nat.le_refl _
  simp only [timeline, agenda_succ, firingsBehind, perform_append]
  rw [catchUpFrom_cycle, catchUpFrom_timer,
    catchUpFrom_clocked_behind _ _ _ ended, List.append_assoc]

/-- A span that is longer, though not by so much that firings would be
dropped. -/
theorem catchUpFrom_timeline
    {span longer : Nat} (before : span ≤ longer)
    (close : longer ≤ span + Ticker.maximalLag) :
    catchUpFrom (start + longer)
        (console.timeline start span).1 (console.timeline start span).2 =
      console.timeline start longer := by
  induction longer, before using Nat.le_induction with
  | base =>
      exact catchUpFrom_clocked_behind _ _ _ (Nat.le_refl _) _
  | succ longer before inductionHypothesis =>
      have inTime : start + (longer + 1) ≤
          start + span + Ticker.maximalLag := by omega
      have onPace :
          (console.timeline start span).1.OnPace (start + (longer + 1)) :=
        onPace_clocked (console.cycle.onPace_behind inTime)
          (console.timer.onPace_behind inTime)
      have earlier :
          start + longer ≤ start + (longer + 1) := Nat.le_succ _
      rw [← catchUpFrom_split onPace earlier,
        inductionHypothesis (by omega)]
      exact console.catchUpFrom_timeline_succ start longer

theorem catchUpFrom_timeline_of_le
    {span now : Nat} (within : now ≤ start + span) :
    catchUpFrom now
        (console.timeline start span).1 (console.timeline start span).2 =
      console.timeline start span :=
  catchUpFrom_clocked_behind _ _ _ within _

end Timeline

/-! ## Beginning to run -/

/-- Whether a request makes a console run that did not, or run something
else. -/
def Starts (console : Console) : Request → Prop
  | .restart program => (program.or console.program).isSome
  | .resume => console.phase = .paused
  | _ => False

/-- Whether a console runs and both of its clocks were started at a moment. -/
structure StartedAt (console : Console) (start : Nat) : Prop where
  running : console.phase = .running
  cycle : console.cycle.next = some (start + console.cycle.period)
  timer : console.timer.next = some (start + console.timer.period)

theorem phase_enter (console : Console) (phase : Phase) :
    (console.enter phase).1.phase = phase := by
  by_cases already : console.phase = phase
  · rw [enter, if_pos already]
    exact already
  · rw [enter, if_neg already]

theorem startedAt_resumeClocks
    {console : Console}
    (still : console.cycle.next = none ∧ console.timer.next = none)
    (start : Nat) :
    ((console.resumeClocks start).enter .running).1.StartedAt start where
  running := phase_enter _ _
  cycle := by
    rw [enter_cycle]
    simp only [resumeClocks, Ticker.resume, still.1]
  timer := by
    rw [enter_timer]
    simp only [resumeClocks, Ticker.resume, still.2]

theorem startedAt_handle
    {console : Console} {announced : List Phase} {request : Request}
    (coherent : console.Coherent announced)
    (starts : console.Starts request) (start : Nat) :
    (console.handle start request).1.StartedAt start := by
  cases request with
  | restart program =>
      obtain ⟨loaded, found⟩ := Option.isSome_iff_exists.mp starts
      simp only [handle, restart, found]
      exact startedAt_resumeClocks ⟨rfl, rfl⟩ start
  | resume =>
      have paused : console.phase = .paused := starts
      have standing : console.phase ≠ .running := by
        rw [paused]
        decide
      simp only [handle, if_pos paused]
      exact startedAt_resumeClocks (coherent.still standing) start
  | pause => exact starts.elim
  | key key pressed => exact starts.elim
  | inspect => exact starts.elim
  | shutdown => exact starts.elim

theorem StartedAt.timeline_zero
    {console : Console} {start : Nat}
    (startedAt : console.StartedAt start) :
    console.timeline start 0 = (console, []) := by
  have performed :
      console.perform (console.agenda 0) = (console, []) := rfl
  simp only [timeline, performed, Ticker.behind_zero startedAt.cycle,
    Ticker.behind_zero startedAt.timer, clocked_self startedAt.running]

/-- Signals sent before do not matter for catching up. -/
theorem catchUpFrom_append
    (console : Console) (now : Nat) (earlier sent : List Signal) :
    catchUpFrom now console (earlier ++ sent) =
      ((catchUpFrom now console sent).1,
        earlier ++ (catchUpFrom now console sent).2) := by
  induction console, sent using catchUpFrom.induct now with
  | case1 console sent nothing => simp only [catchUpFrom_of_none nothing]
  | case2 console sent firing found inductionHypothesis =>
      simp only [catchUpFrom_of_some found, List.append_assoc]
      exact inductionHypothesis

end Console

/-! ## Attending to a console -/

/-- Whether a console that started at a moment is told the time often enough up
to another: the moments do not decrease, none is later than the one before it,
or the start, by more than the lag at which firings are dropped, and the last is
the other. -/
structure Attended (start finish : Nat) (times : List Nat) : Prop where
  ordered : times.IsChain fun earlier later => earlier ≤ later
  close : (start :: times).IsChain fun earlier later =>
    later ≤ earlier + Ticker.maximalLag
  last : times.getLast? = some finish

namespace Transcript

/-- Catching up is told on behind what was recorded last. -/
theorem next_catchUp_record
    (transcript : Transcript) (outcome : Console × List Signal)
    (now : Nat) :
    (transcript.record outcome).next now .catchUp =
      transcript.record
        (Console.catchUpFrom now outcome.1 outcome.2) := by
  have appended :=
    Console.catchUpFrom_append outcome.1 now outcome.2 []
  rw [List.append_nil] at appended
  simp only [next, record, Console.catchUp, appended, List.append_assoc]

theorem next_catchUp_timeline
    (transcript : Transcript) (console : Console)
    {start earlier now : Nat}
    (ordered : earlier - start ≤ now - start)
    (close : now ≤ earlier + Ticker.maximalLag) :
    (transcript.record
        (console.timeline start (earlier - start))).next now .catchUp =
      transcript.record (console.timeline start (now - start)) := by
  rw [next_catchUp_record]
  by_cases behind : start ≤ now
  · have reached : start + (now - start) = now := by omega
    have caughtUp :=
      console.catchUpFrom_timeline start ordered (by omega)
    rw [reached] at caughtUp
    rw [caughtUp]
  · have sameSpan : earlier - start = now - start := by omega
    rw [sameSpan,
      console.catchUpFrom_timeline_of_le start (by omega)]

/-- Catching up again and again. -/
theorem run_catchUp_timeline
    (transcript : Transcript) (console : Console)
    {start earlier finish : Nat} {times : List Nat}
    (ordered : (earlier :: times).IsChain fun earlier later =>
      earlier - start ≤ later - start)
    (close : (earlier :: times).IsChain fun earlier later =>
      later ≤ earlier + Ticker.maximalLag)
    (last : (earlier :: times).getLast? = some finish) :
    (transcript.record
        (console.timeline start (earlier - start))).run
          (times.map fun now => (now, .catchUp)) =
      transcript.record (console.timeline start (finish - start)) := by
  induction times generalizing earlier with
  | nil =>
      cases last
      rfl
  | cons now rest inductionHypothesis =>
      obtain ⟨orderedHere, orderedLater⟩ :=
        List.isChain_cons_cons.mp ordered
      obtain ⟨closeHere, closeLater⟩ := List.isChain_cons_cons.mp close
      rw [List.getLast?_cons_cons] at last
      rw [List.map_cons, run,
        transcript.next_catchUp_timeline console orderedHere closeHere]
      exact inductionHypothesis orderedLater closeLater last

/-- Attending to a console that has just started leads to its timeline. -/
theorem run_attended
    {transcript : Transcript} {start finish : Nat} {times : List Nat}
    (startedAt : transcript.console.StartedAt start)
    (attended : Attended start finish times) :
    transcript.run (times.map fun now => (now, .catchUp)) =
      transcript.record
        (transcript.console.timeline start (finish - start)) := by
  obtain ⟨ordered, close, last⟩ := attended
  have unchanged :
      transcript.record
          (transcript.console.timeline start (start - start)) =
        transcript := by
    rw [Nat.sub_self, startedAt.timeline_zero]
    simp only [record, List.append_nil]
  cases times with
  | nil => cases last
  | cons first rest =>
      have orderedSpans :
          (start :: first :: rest).IsChain fun earlier later =>
            earlier - start ≤ later - start := by
        refine List.isChain_cons_cons.mpr ⟨by omega, ?_⟩
        exact ordered.imp fun _ _ before => Nat.sub_le_sub_right before start
      have reached := transcript.run_catchUp_timeline transcript.console
        orderedSpans close (List.getLast?_cons_cons.trans last)
      rw [unchanged] at reached
      exact reached

/-- Take any console that started out idle, with any settings and random source,
and went through any history, and let it be restarted or resumed.  However it is
attended to from then on, as long as it is, what it is and what it has sent by
some moment are the same, and are what its timeline says. -/
theorem catchUp_batching
    (settings : Settings) (source : KeyStream)
    (history : List (Nat × Event)) (start finish : Nat)
    (request : Request) (times others : List Nat)
    (starts :
      ((Transcript.start (Console.idle settings source)).run
        history).console.Starts request)
    (attended : Attended start finish times)
    (attendedOtherwise : Attended start finish others) :
    let started :=
      ((Transcript.start (Console.idle settings source)).run history).next
        start (.request request)
    started.run (times.map fun now => (now, .catchUp)) =
        started.run (others.map fun now => (now, .catchUp)) ∧
      started.run (times.map fun now => (now, .catchUp)) =
        started.record
          (started.console.timeline start (finish - start)) := by
  intro started
  have startedAt : started.console.StartedAt start :=
    Console.startedAt_handle (coherent_run settings source history)
      starts start
  have oneWay := run_attended startedAt attended
  have otherWay := run_attended startedAt attendedOtherwise
  exact ⟨oneWay.trans otherWay.symm, oneWay⟩

/-- A console that is resumed and then told the time once, at the greatest lag
there may be, ends up like one that is told it three times in between. -/
theorem catchUp_batching_resumed :
    let settings : Settings := {}
    let history : List (Nat × Event) :=
      [(0, .request (.restart (some [0x12, 0x00]))),
        (9, .request .pause)]
    let before :=
      (Transcript.start (Console.idle settings settings.source)).run history
    let started := before.next 20 (.request .resume)
    let once := [100000020]
    let often := [3000020, 20000000, 20000000, 100000020]
    before.console.Starts .resume ∧
      Attended 20 100000020 once ∧ Attended 20 100000020 often ∧
      started.run (once.map fun now => (now, .catchUp)) =
        started.run (often.map fun now => (now, .catchUp)) ∧
      started.run (once.map fun now => (now, .catchUp)) =
        started.record (started.console.timeline 20 100000000) := by
  intro settings history before started once often
  have starts : before.console.Starts .resume := by
    change before.console.phase = .paused
    rfl
  have attended : Attended 20 100000020 once := by
    refine ⟨?_, ?_, rfl⟩ <;> decide
  have attendedOtherwise : Attended 20 100000020 often := by
    refine ⟨?_, ?_, rfl⟩ <;> decide
  refine ⟨starts, attended, attendedOtherwise, ?_⟩
  exact catchUp_batching settings settings.source history 20 100000020
    .resume once often starts attended attendedOtherwise

end Transcript

end ChipEight
