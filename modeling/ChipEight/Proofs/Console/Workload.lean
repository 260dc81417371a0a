import ChipEight.Proofs.Console.Restart
import ChipEight.Proofs.Console.Sounds
import ChipEight.Proofs.Ticker.Draining
import Mathlib.Data.List.Count

/-!
# The work of catching up

However long a console was left alone, catching up costs it a bounded amount of work.  The
loop counts nothing by itself: it goes on until no clock is due.  What bounds it is that
every firing uses up one of the firings that its clock has left, `Ticker.firings`, and
gives the other clock none; a fault takes away all that are left of both.
-/

namespace ChipEight

namespace Console

/-- The clock that a firing polls. -/
def clock (console : Console) : Firing → Ticker
  | .cycle => console.cycle
  | .timer => console.timer

/-- The firings by which a console catches up to a moment, in order. -/
def fired (console : Console) (now : Nat) : List Firing :=
  (console.firings now).map Prod.snd

/-- Fires as told, behind signals already sent. -/
def fireAll
    (now : Nat) (console : Console) (sent : List Signal) :
    List Firing → Console × List Signal
  | [] => (console, sent)
  | firing :: later =>
      fireAll now (console.fire now firing).1
        (sent ++ (console.fire now firing).2) later

variable {console : Console} {now : Nat} {firing : Firing}

theorem fired_of_some (found : console.firing? now = some firing) :
    console.fired now = firing :: (console.fire now firing).1.fired now := by
  simp only [fired, firings_of_some found, List.map_cons]

theorem fired_of_none (nothing : console.firing? now = none) :
    console.fired now = [] := by
  simp only [fired, firings_of_none nothing, List.map_nil]

theorem due_of_firing? (found : console.firing? now = some firing) :
    ((console.clock firing).due? now).isSome := by
  cases firing with
  | cycle => exact due_of_firing?_cycle found
  | timer => exact due_of_firing?_timer found

/-- A running console with nothing to fire has no clock that is due. -/
theorem not_due_of_firing?_eq_none
    (running : console.phase = .running)
    (nothing : console.firing? now = none) (firing : Firing) :
    (console.clock firing).due? now = none := by
  rw [firing?, if_pos running] at nothing
  cases firing <;> simp only [clock] <;> grind

/-! ## The loop -/

theorem catchUpFrom_eq_fireAll (console : Console) (sent : List Signal) :
    catchUpFrom now console sent =
      fireAll now console sent (console.fired now) := by
  induction console, sent using catchUpFrom.induct now with
  | case1 console sent nothing =>
      rw [catchUpFrom_of_none nothing, fired_of_none nothing, fireAll]
  | case2 console sent firing found inductionHypothesis =>
      rw [catchUpFrom_of_some found, fired_of_some found, fireAll]
      exact inductionHypothesis

theorem firing?_of_fired
    {later : List Firing} (split : console.fired now = firing :: later) :
    console.firing? now = some firing ∧
      (console.fire now firing).1.fired now = later := by
  cases found : console.firing? now with
  | none =>
      rw [fired_of_none found] at split
      cases split
  | some first =>
      rw [fired_of_some found] at split
      cases split
      exact ⟨rfl, rfl⟩

/-- Each firing is the one that the console chooses after those before it. -/
theorem firing?_fireAll
    {earlier later : List Firing} (sent : List Signal)
    (split : console.fired now = earlier ++ firing :: later) :
    (fireAll now console sent earlier).1.firing? now = some firing := by
  induction earlier generalizing console sent with
  | nil => exact (firing?_of_fired split).1
  | cons first earlier inductionHypothesis =>
      exact inductionHypothesis _ (firing?_of_fired split).2

/-- Catching up ends with nothing left to fire. -/
theorem firing?_catchUpFrom (console : Console) (sent : List Signal) :
    (catchUpFrom now console sent).1.firing? now = none := by
  induction console, sent using catchUpFrom.induct now with
  | case1 console sent nothing =>
      rw [catchUpFrom_of_none nothing]
      exact nothing
  | case2 console sent firing found inductionHypothesis =>
      rw [catchUpFrom_of_some found]
      exact inductionHypothesis

/-! ## What is left -/

/-- A firing polls its own clock and leaves the other alone, or stops both. -/
theorem clock_fire (console : Console) (now : Nat) (firing : Firing) :
    (∀ other,
      (console.fire now firing).1.clock other =
        if other = firing then
          (console.clock other).fire now
        else
          console.clock other) ∨
      ∀ other,
        (console.fire now firing).1.clock other =
          (console.clock other).suspend := by
  cases firing with
  | timer =>
      refine Or.inl fun other => ?_
      cases other <;> rfl
  | cycle =>
      rcases stepped : console.machine.step with ⟨machine, fault | executed⟩
      · refine Or.inr fun other => ?_
        cases other
        case cycle =>
          simp only [fire, fireCycle, stepped, clock, enter_cycle]
          rfl
        case timer =>
          simp only [fire, fireCycle, stepped, clock, enter_timer]
          rfl
      · refine Or.inl fun other => ?_
        simp only [fire, fireCycle, stepped]
        cases other <;> rfl

/-- A firing leaves its clock one firing less, and none more to the other. -/
theorem firings_clock_fire
    (found : console.firing? now = some firing) (other : Firing) :
    ((console.fire now firing).1.clock other).firings now +
        (if firing == other then 1 else 0) ≤
      (console.clock other).firings now := by
  have oneMore := (Ticker.drained_of_due (due_of_firing? found)).1
  rcases console.clock_fire now firing with polled | stopped
  · rw [polled]
    by_cases same : firing = other
    · subst same
      rw [if_pos rfl, if_pos (beq_self_eq_true firing), oneMore]
    · rw [if_neg (Ne.symm same), if_neg (by simpa using same)]
      exact Nat.le_refl _
  · have noneLeft :
        ((console.clock other).suspend).firings now = 0 := rfl
    rw [stopped, noneLeft]
    by_cases same : firing = other
    · subst same
      rw [if_pos (beq_self_eq_true firing), oneMore]
      omega
    · rw [if_neg (by simpa using same)]
      exact Nat.zero_le _

/-- Catching up fires no clock more often than draining it would. -/
theorem count_fired_le (console : Console) (now : Nat) (firing : Firing) :
    (console.fired now).count firing ≤
      (console.clock firing).firings now := by
  induction console using firings.induct now with
  | case1 console nothing =>
      rw [fired_of_none nothing]
      exact Nat.zero_le _
  | case2 console first found inductionHypothesis =>
      rw [fired_of_some found, List.count_cons]
      exact Nat.le_trans (Nat.add_le_add_right inductionHypothesis _)
        (firings_clock_fire found firing)

theorem stimuli_catchUp (console : Console) (now : Nat) :
    console.stimuli now .catchUp =
      (console.fired now).map Firing.stimulus := by
  rw [fired, List.map_map]
  rfl

theorem stimulus_injective : Function.Injective Firing.stimulus := by
  intro firing other same
  cases firing <;> cases other <;> first | rfl | cases same

theorem count_stimuli_catchUp
    (console : Console) (now : Nat) (firing : Firing) :
    (console.stimuli now .catchUp).count firing.stimulus =
      (console.fired now).count firing := by
  rw [stimuli_catchUp]
  exact List.count_map_of_injective _ _ stimulus_injective firing

/-- What catching up does to the machine is bounded for each of the clocks. -/
theorem count_stimuli_catchUp_le
    (console : Console) (now : Nat) (firing : Firing) :
    (console.stimuli now .catchUp).count firing.stimulus ≤
      Ticker.maximalLag / (console.clock firing).period + 2 := by
  rw [count_stimuli_catchUp]
  exact Nat.le_trans (console.count_fired_le now firing)
    (Ticker.firings_le _ now)

/-- A console that still runs once nothing is left to fire is ahead with both of its
clocks. -/
theorem Coherent.ahead
    {announced : List Phase} (coherent : console.Coherent announced)
    (running : console.phase = .running)
    (nothing : console.firing? now = none) (firing : Firing) :
    ∃ deadline,
      (console.clock firing).next = some deadline ∧ now < deadline := by
  have ticking : (console.clock firing).next.isSome := by
    cases firing
    case cycle => exact (coherent.ticking running).1
    case timer => exact (coherent.ticking running).2
  obtain ⟨deadline, scheduled⟩ := Option.isSome_iff_exists.mp ticking
  have notDue := not_due_of_firing?_eq_none running nothing firing
  exact ⟨deadline, scheduled,
    Ticker.due?_eq_none_iff.mp notDue deadline scheduled⟩

end Console

namespace Transcript

/-- Take any console that started out idle, with any settings and random source, and
went through any history, and let it catch up to any moment.  What it does is a finite
list of firings, each of a clock that was due then and the one it chose, and nothing is
left to fire after them.  The machine runs through as many steps and ticks as there are
firings of either clock, and each number is bounded by the lag that is tolerated and the
rate of the clock.  Afterwards the console does not run or both of its clocks are ahead,
and catching up again does nothing. -/
theorem catchUp_bounded
    (settings : Settings) (source : KeyStream)
    (history : List (Nat × Event)) (now : Nat) :
    let console :=
      ((start (Console.idle settings source)).run history).console
    let fired := console.fired now
    let done := fired.map Firing.stimulus
    let caughtUp := (console.catchUp now).1
    console.catchUp now = Console.fireAll now console [] fired ∧
      (∀ earlier firing later, fired = earlier ++ firing :: later →
        let before := (Console.fireAll now console [] earlier).1
        before.firing? now = some firing ∧
          ((before.clock firing).poll now).1 = true) ∧
      caughtUp.machine = (console.machine.run done).1 ∧
      done.count .step ≤
        Ticker.maximalLag / Ticker.periodOf settings.cycleRate + 2 ∧
      done.count .tick ≤
        Ticker.maximalLag / Ticker.periodOf timerRate + 2 ∧
      (caughtUp.phase ≠ .running ∨
        ∃ cycle timer,
          caughtUp.cycle.next = some cycle ∧ now < cycle ∧
            caughtUp.timer.next = some timer ∧ now < timer) ∧
      caughtUp.catchUp now = (caughtUp, []) := by
  intro console fired done caughtUp
  have paced : console.Paced settings := paced_run settings source history
  have nothing : caughtUp.firing? now = none :=
    console.firing?_catchUpFrom []
  have sameStimuli : console.stimuli now .catchUp = done :=
    console.stimuli_catchUp now
  have cyclePeriod :
      (console.clock .cycle).period =
        Ticker.periodOf settings.cycleRate :=
    congrArg Ticker.period paced.cycle
  have timerPeriod :
      (console.clock .timer).period = Ticker.periodOf timerRate :=
    congrArg Ticker.period paced.timer
  refine ⟨console.catchUpFrom_eq_fireAll [], ?chosen, ?machine, ?steps,
    ?ticks, ?ahead, Console.catchUpFrom_of_none nothing []⟩
  case chosen =>
    intro earlier firing later split before
    have found : before.firing? now = some firing :=
      Console.firing?_fireAll [] split
    exact ⟨found, Console.due_of_firing? found⟩
  case machine =>
    rw [← sameStimuli]
    exact (console.catchUpFrom_stimuli []).1
  case steps =>
    rw [← sameStimuli, ← cyclePeriod]
    exact console.count_stimuli_catchUp_le now .cycle
  case ticks =>
    rw [← sameStimuli, ← timerPeriod]
    exact console.count_stimuli_catchUp_le now .timer
  case ahead =>
    by_cases running : caughtUp.phase = .running
    · have coherent :=
        coherent_run settings source (history ++ [(now, .catchUp)])
      rw [run_append] at coherent
      obtain ⟨cycle, cycleNext, cycleAhead⟩ :=
        Console.Coherent.ahead coherent running nothing .cycle
      obtain ⟨timer, timerNext, timerAhead⟩ :=
        Console.Coherent.ahead coherent running nothing .timer
      exact Or.inr ⟨cycle, timer, cycleNext, cycleAhead, timerNext,
        timerAhead⟩
    · exact Or.inl running

end Transcript

end ChipEight
