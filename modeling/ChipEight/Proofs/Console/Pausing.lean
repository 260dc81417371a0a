import ChipEight.Proofs.Console.Batching
import ChipEight.Proofs.Console.Deeds
import ChipEight.Proofs.Console.Restart

/-!
# Pausing

A console on pause is the console it was before, except that its clocks stand still
and that keys may have been pressed and released since.  `Console.onPause` writes this
down, and `OnPause.next` says that nothing that may happen during a pause leads away
from it: catching up finds nothing due, samples hand nothing on, and pausing again is
ignored.

What a pause leaves behind once it is over is `pause_invisible`.  The deadlines are
counted from the moment of resuming, because a pause does not keep the old ones; so
nothing that would have been due in between is made up for.
-/

namespace ChipEight

namespace State

/-- What became of a key last, if anything did. -/
def latestPress?
    (slot : Fin keyCount) (presses : List (UInt8 × Bool)) : Option Bool :=
  ((presses.filter fun press => press.1.toNat = slot.val).getLast?).map
    Prod.snd

/-- The state with a keypad on which keys were pressed and released, the earliest
first. -/
def withPresses (state : State) (presses : List (UInt8 × Bool)) : State :=
  { state with
    keypad :=
      Vector.ofFn fun slot : Fin keyCount =>
        (latestPress? slot presses).getD state.keypad[slot] }

theorem latestPress?_concat
    (slot : Fin keyCount) (presses : List (UInt8 × Bool))
    (key : UInt8) (pressed : Bool) :
    latestPress? slot (presses ++ [(key, pressed)]) =
      if key.toNat = slot.val then
        some pressed
      else
        latestPress? slot presses := by
  by_cases same : key.toNat = slot.val
  · simp [latestPress?, same]
  · simp [latestPress?, same]

theorem withPresses_nil (state : State) : state.withPresses [] = state := by
  have sameKeypad :
      (Vector.ofFn fun slot : Fin keyCount => state.keypad[slot]) =
        state.keypad := by
    ext slot inRange
    simp only [Vector.getElem_ofFn, Fin.getElem_fin]
  simp only [withPresses, latestPress?, List.filter_nil, List.getLast?_nil,
    Option.map_none, Option.getD_none, sameKeypad]

theorem setKey_withPresses
    (state : State) (presses : List (UInt8 × Bool))
    (key : UInt8) (pressed : Bool) :
    (state.withPresses presses).setKey key pressed =
      state.withPresses (presses ++ [(key, pressed)]) := by
  by_cases present : key.toNat < keyCount
  · have sameKeypad :
        (state.withPresses presses).keypad.set key.toNat pressed present =
          (state.withPresses (presses ++ [(key, pressed)])).keypad := by
      ext slot inRange
      simp only [withPresses, Vector.getElem_set, Vector.getElem_ofFn,
        latestPress?_concat]
      split <;> rfl
    rw [setKey, dif_pos present, sameKeypad]
    simp only [withPresses]
  · -- A key beyond the keypad has no slot.
    have other (slot : Fin keyCount) : key.toNat ≠ slot.val := by
      have := slot.isLt
      omega
    simp only [setKey, dif_neg present, withPresses, latestPress?_concat,
      if_neg (other _)]

end State

namespace Event

/-- Whether an event can happen during a pause without an end to it. -/
def keepsPause : Event → Bool
  | .request (.restart _) | .request .resume => false
  | _ => true

/-- The key an event presses or releases, if it does. -/
def press? : Event → Option (UInt8 × Bool)
  | .request (.key key pressed) => some (key, pressed)
  | _ => none

/-- The keys pressed and released in a history, the earliest first. -/
def presses (history : List (Nat × Event)) : List (UInt8 × Bool) :=
  history.filterMap fun entry => entry.2.press?

theorem presses_cons (entry : Nat × Event) (rest : List (Nat × Event)) :
    presses (entry :: rest) = entry.2.press?.toList ++ presses rest := by
  unfold presses
  cases pressed : entry.2.press? <;> simp [pressed]

end Event

namespace Console

variable {console : Console} {presses : List (UInt8 × Bool)}

/-- A console on pause, with the keys pressed and released since. -/
def onPause (console : Console) (presses : List (UInt8 × Bool)) : Console :=
  { console.suspendClocks with
    machine :=
      { console.machine with
        state := console.machine.state.withPresses presses }
    phase := .paused
    published := .paused }

/-- A console that goes on after a pause, with both clocks due a period later. -/
def goingOn
    (console : Console) (presses : List (UInt8 × Bool)) (now : Nat) :
    Console :=
  { console with
    machine :=
      { console.machine with
        state := console.machine.state.withPresses presses }
    cycle := { console.cycle with next := some (now + console.cycle.period) }
    timer := { console.timer with next := some (now + console.timer.period) } }

theorem handle_pause
    (running : console.phase = .running) (now : Nat) :
    console.handle now .pause =
      (console.onPause [],
        [.noted (.phaseChanged .running .paused), .entered .paused]) := by
  have notPaused : console.suspendClocks.phase ≠ .paused := by
    change console.phase ≠ .paused
    rw [running]
    decide
  simp only [handle, if_pos running, enter, if_neg notPaused, onPause,
    State.withPresses_nil]
  simp only [suspendClocks, running]

theorem handle_resume
    (running : console.phase = .running)
    (published : console.published = console.phase)
    (presses : List (UInt8 × Bool)) (now : Nat) :
    (console.onPause presses).handle now .resume =
      (console.goingOn presses now,
        [.noted (.phaseChanged .paused .running), .entered .running]) := by
  have paused : (console.onPause presses).phase = .paused := rfl
  have notRunning :
      ((console.onPause presses).resumeClocks now).phase ≠ .running := by
    change Phase.paused ≠ .running
    decide
  have shown : console.published = .running := published.trans running
  simp only [handle, if_pos paused, enter, if_neg notRunning]
  simp only [resumeClocks, onPause, goingOn, suspendClocks, Ticker.suspend,
    Ticker.resume, ← shown]
  simp only [shown, ← running]

theorem startedAt_goingOn
    (running : console.phase = .running)
    (presses : List (UInt8 × Bool)) (now : Nat) :
    (console.goingOn presses now).StartedAt now where
  running := by simp only [goingOn, running]
  cycle := rfl
  timer := rfl

theorem catchUp_onPause (console : Console)
    (presses : List (UInt8 × Bool)) (now : Nat) :
    (console.onPause presses).catchUp now =
        (console.onPause presses, []) ∧
      (console.onPause presses).firings now = [] := by
  have nothing : (console.onPause presses).firing? now = none :=
    firing?_of_ne_running (by simp [onPause]) now
  exact ⟨catchUpFrom_of_none nothing [], firings_of_none nothing⟩

theorem sample_onPause (console : Console)
    (presses : List (UInt8 × Bool)) (listening : Bool) :
    (console.onPause presses).sample listening =
      (console.onPause presses, none) := rfl

end Console

namespace Transcript

variable {before after : Transcript} {presses : List (UInt8 × Bool)}

/-- The console of a transcript was paused, keys were pressed and released since, and
neither a frame nor a sound was sent. -/
structure OnPause
    (before after : Transcript) (presses : List (UInt8 × Bool)) : Prop where
  console : after.console = before.console.onPause presses
  frames : after.frames = before.frames
  sounds : after.signals.count .sounded = before.signals.count .sounded

theorem OnPause.record
    (onPause : before.OnPause after presses)
    {outcome : Console × List Signal} {laterPresses : List (UInt8 × Bool)}
    (sameConsole : outcome.1 = before.console.onPause laterPresses)
    (silent : .sounded ∉ outcome.2) :
    before.OnPause (after.record outcome) laterPresses where
  console := sameConsole
  frames := onPause.frames
  sounds := by
    have noSound := List.count_eq_zero_of_not_mem silent
    simp only [Transcript.record, List.count_append, noSound, Nat.add_zero]
    exact onPause.sounds

theorem onPause_paused
    (running : before.console.phase = .running) (now : Nat) :
    before.OnPause (before.next now (.request .pause)) [] := by
  have handled := Console.handle_pause running now
  rw [next, handled]
  constructor
  · rfl
  · simp only [record]
  · simp [record]

/-- Nothing that may happen during a pause ends it, and nothing is done. -/
theorem OnPause.next
    (onPause : before.OnPause after presses) (now : Nat) {event : Event}
    (kept : event.keepsPause = true) :
    before.OnPause (after.next now event)
        (presses ++ event.press?.toList) ∧
      after.console.deeds now event = [] := by
  have unpressed : presses ++ (none : Option (UInt8 × Bool)).toList =
      presses := List.append_nil presses
  cases event with
  | catchUp =>
      obtain ⟨sameConsole, nothingDone⟩ :=
        before.console.catchUp_onPause presses now
      simp only [Event.press?, unpressed, Transcript.next, Console.deeds,
        onPause.console, sameConsole, nothingDone, List.map_nil, and_true]
      exact onPause.record rfl List.not_mem_nil
  | sample listening =>
      have nothingShown := before.console.sample_onPause presses listening
      simp only [Event.press?, Transcript.next, sampled, Console.deeds,
        onPause.console, nothingShown, Option.toList_none,
        List.append_nil, List.map_nil, and_true]
      exact ⟨rfl, onPause.frames, onPause.sounds⟩
  | request request =>
      cases request with
      | restart program => cases kept
      | resume => cases kept
      | pause =>
          refine ⟨?_, rfl⟩
          have ignored :
              after.console.handle now .pause = (after.console, []) := by
            rw [onPause.console]
            rfl
          simp only [Event.press?, unpressed, Transcript.next, ignored]
          exact onPause.record onPause.console List.not_mem_nil
      | key key pressed =>
          refine ⟨?_, rfl⟩
          refine onPause.record ?_ ?_
          · simp only [Console.handle, onPause.console, Console.onPause,
              Machine.setKey, State.setKey_withPresses]
            rfl
          · simp [Console.handle]
      | inspect =>
          refine ⟨?_, rfl⟩
          simp only [Event.press?, unpressed]
          refine onPause.record onPause.console ?_
          simp [Console.handle]
      | shutdown =>
          refine ⟨?_, rfl⟩
          simp only [Event.press?, unpressed]
          exact onPause.record onPause.console List.not_mem_nil

theorem OnPause.run
    (onPause : before.OnPause after presses) {history : List (Nat × Event)}
    (kept : ∀ entry ∈ history, entry.2.keepsPause = true) :
    before.OnPause (after.run history)
        (presses ++ Event.presses history) ∧
      after.deeds history = [] := by
  induction history generalizing after presses with
  | nil =>
      refine ⟨?_, rfl⟩
      simp only [Event.presses, List.filterMap_nil, List.append_nil]
      exact onPause
  | cons entry rest inductionHypothesis =>
      obtain ⟨now, event⟩ := entry
      obtain ⟨keptNow, keptLater⟩ := List.forall_mem_cons.mp kept
      obtain ⟨onPauseNext, nothingDone⟩ := onPause.next now keptNow
      obtain ⟨onPauseLater, nothingDoneLater⟩ :=
        inductionHypothesis onPauseNext keptLater
      rw [Event.presses_cons, ← List.append_assoc]
      refine ⟨onPauseLater, ?_⟩
      simp only [deeds, nothingDone, nothingDoneLater, List.append_nil]

/-- Take any console that started out idle, with any settings and random source, went
through any history and runs, and let it be paused and later resumed.  Whatever happens
in between, as long as it neither starts a program nor ends the pause, the console is
then the one before the pause, its random source and the frame that waits included,
except that every key is as it was last pressed or released, and that both clocks are
due a full period after resuming.  Nothing was executed, counted or shown during the
pause, and no frame or sound was sent; and from then on the console does what its
timeline from the moment of resuming says, and no more. -/
theorem pause_invisible
    (settings : Settings) (source : KeyStream)
    (history : List (Nat × Event)) (pausedAt resumedAt : Nat)
    (meanwhile : List (Nat × Event))
    (running :
      ((start (Console.idle settings source)).run
        history).console.phase = .running)
    (kept : ∀ entry ∈ meanwhile, entry.2.keepsPause = true) :
    let before := (start (Console.idle settings source)).run history
    let pause : List (Nat × Event) :=
      (pausedAt, .request .pause) :: meanwhile ++
        [(resumedAt, .request .resume)]
    let after := before.run pause
    after.console =
        before.console.goingOn (Event.presses meanwhile) resumedAt ∧
      after.console.cycle.next =
        some (resumedAt + Ticker.periodOf settings.cycleRate) ∧
      after.console.timer.next =
        some (resumedAt + Ticker.periodOf timerRate) ∧
      before.deeds pause = [] ∧
      after.frames = before.frames ∧
      after.signals.count .sounded = before.signals.count .sounded ∧
      ∀ finish times, Attended resumedAt finish times →
        after.run (times.map fun now => (now, .catchUp)) =
          after.record
            (after.console.timeline resumedAt (finish - resumedAt)) := by
  intro before pause after
  have coherent := coherent_run settings source history
  have paced := paced_run settings source history
  have sameCyclePeriod :
      before.console.cycle.period = Ticker.periodOf settings.cycleRate :=
    congrArg Ticker.period paced.cycle
  have sameTimerPeriod :
      before.console.timer.period = Ticker.periodOf timerRate :=
    congrArg Ticker.period paced.timer
  -- The pause begins,
  let paused := before.next pausedAt (.request .pause)
  have begins : before.OnPause paused [] :=
    onPause_paused running pausedAt
  -- goes on,
  obtain ⟨goesOn, nothingDone⟩ := begins.run kept
  rw [List.nil_append] at goesOn
  -- and ends.
  have ends :
      (paused.run meanwhile).console.handle resumedAt .resume =
        (before.console.goingOn (Event.presses meanwhile) resumedAt,
          [.noted (.phaseChanged .paused .running),
            .entered .running]) := by
    rw [goesOn.console]
    exact Console.handle_resume running coherent.published _ resumedAt
  have isAfter :
      after =
        (paused.run meanwhile).record
          (before.console.goingOn (Event.presses meanwhile) resumedAt,
            [.noted (.phaseChanged .paused .running),
              .entered .running]) := by
    rw [← ends]
    exact paused.run_append meanwhile [(resumedAt, .request .resume)]
  have startedAt : after.console.StartedAt resumedAt := by
    rw [isAfter]
    exact Console.startedAt_goingOn running _ resumedAt
  have sameConsole :
      after.console =
        before.console.goingOn (Event.presses meanwhile) resumedAt := by
    rw [isAfter, record]
  refine ⟨sameConsole, ?_, ?_, ?_, ?_, ?_,
    fun finish times => run_attended startedAt⟩
  · rw [sameConsole, Console.goingOn, sameCyclePeriod]
  · rw [sameConsole, Console.goingOn, sameTimerPeriod]
  · have resuming :
        (paused.run meanwhile).deeds [(resumedAt, .request .resume)] =
          [] := rfl
    have pausing :
        before.deeds pause =
          paused.deeds (meanwhile ++ [(resumedAt, .request .resume)]) := rfl
    rw [pausing, paused.deeds_append, nothingDone, resuming]
    rfl
  · rw [isAfter]
    exact goesOn.frames
  · rw [isAfter]
    simp only [record, List.count_append]
    simpa using goesOn.sounds

/-- A program draws, and is then paused for ten seconds in which keys are pressed and
released.  Its frame still waits after that. -/
theorem pause_invisible_tenSeconds :
    let settings : Settings := {}
    let before := (start (Console.idle settings settings.source)).run
      [(0, .request (.restart (some [0xD0, 0x05, 0x12, 0x02]))),
        (2000000, .catchUp)]
    let meanwhile : List (Nat × Event) :=
      [(3000000, .request (.key 3 true)), (4000000, .catchUp),
        (5000000, .sample true), (6000000, .request (.key 9 true)),
        (7000000, .request .inspect), (8000000, .request (.key 3 false)),
        (9000000, .request .pause), (10000000000, .catchUp)]
    let after := before.run
      ((2500000, .request .pause) :: meanwhile ++
        [(10002500000, .request .resume)])
    before.console.phase = .running ∧
      (∀ entry ∈ meanwhile, entry.2.keepsPause = true) ∧
      before.console.pending = some before.console.machine.state.screen ∧
      after.console.pending = before.console.pending ∧
      after.frames = before.frames ∧
      after.console.machine.source = before.console.machine.source ∧
      after.console.cycle.next = some 10004500000 ∧
      after.console.timer.next = some 10019166666 := by
  intro settings before meanwhile after
  obtain ⟨running, waiting⟩ :
      before.console.phase = .running ∧
        before.console.pending =
          some before.console.machine.state.screen := by
    decide +kernel
  have kept : ∀ entry ∈ meanwhile, entry.2.keepsPause = true := by
    decide
  obtain ⟨sameConsole, cycleNext, timerNext, _, sameFrames, _⟩ :=
    pause_invisible settings settings.source _ 2500000 10002500000
      meanwhile running kept
  have cyclePeriod : Ticker.periodOf settings.cycleRate = 2000000 := by
    decide
  have timerPeriod : Ticker.periodOf timerRate = 16666666 := by
    decide
  rw [cyclePeriod] at cycleNext
  rw [timerPeriod] at timerNext
  refine ⟨running, kept, waiting, ?_, sameFrames, ?_, cycleNext,
    timerNext⟩
  · rw [sameConsole, Console.goingOn]
  · rw [sameConsole, Console.goingOn]

end Transcript

end ChipEight
