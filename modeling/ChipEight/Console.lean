import ChipEight.Machine
import ChipEight.Settings
import ChipEight.Signal

/-!
# The console

A machine that is driven by two clocks, one for its instructions and one for its
timers.  Nothing here waits: the current moment is an argument, and every
operation gives the console afterwards together with the signals it sends, in
order.

While the console runs, both clocks have a deadline; otherwise neither has.
Catching up fires whatever is due, earliest first, an instruction before a timer
when both are due at the same moment.  A failing instruction pauses the console.

The screen is published after every instruction that touched it and kept until
it is sampled, so that redraws between two samples are seen as one frame.
-/

namespace ChipEight

/-- A machine with its program, its clocks and what it shows to others: the
published phase and the frame not yet sampled. -/
structure Console where
  machine : Machine
  program : Option (List UInt8)
  phase : Phase
  published : Phase
  cycle : Ticker
  timer : Ticker
  pending : Option Screen
  deriving DecidableEq, Repr

/-- What one of the two clocks makes a console do. -/
inductive Firing where
  /-- Execute one instruction. -/
  | cycle
  /-- Count the timers down. -/
  | timer
  deriving DecidableEq, Repr

namespace Console

/-- A console that has not been given a program yet. -/
def ofSettings (settings : Settings) : Console where
  machine := Machine.fresh settings.source
  program := none
  phase := .initial
  published := .initial
  cycle := Ticker.ofRate settings.cycleRate
  timer := Ticker.ofRate timerRate
  pending := none

def suspendClocks (console : Console) : Console :=
  { console with
    cycle := console.cycle.suspend
    timer := console.timer.suspend }

/-- The console with both clocks running, each due after one period. -/
def resumeClocks (console : Console) (now : Nat) : Console :=
  { console with
    cycle := console.cycle.resume now
    timer := console.timer.resume now }

/-- Enters a phase and announces it; nothing happens when the console is in it
already. -/
def enter (console : Console) (phase : Phase) : Console × List Signal :=
  if console.phase = phase then
    (console, [])
  else
    ({ console with phase := phase, published := phase },
      [.noted (.phaseChanged console.phase phase), .entered phase])

/-- The console with stopped clocks and a program loaded; a frame that was not
sampled is thrown away. -/
def load (console : Console) (program : List UInt8) : Console :=
  { console.suspendClocks with
    machine := console.machine.reset program
    program := some program
    pending := none }

/-- Loads a program, or the one loaded last, and runs it. -/
def restart
    (console : Console) (program : Option (List UInt8)) (now : Nat) :
    Console × List Signal :=
  match program.or console.program with
  | none => (console, [.noted .nothingToRestart])
  | some program =>
      let (running, announced) :=
        ((console.load program).resumeClocks now).enter .running
      (running,
        (Notice.ofProgram program ++
            [Notice.programLoaded program.length]).map
            Signal.noted ++
          announced)

/-- What a request does to a console.  Ending the service is not the console's
business, so a request for it changes nothing. -/
def handle (console : Console) (now : Nat) :
    Request → Console × List Signal
  | .restart program => console.restart program now
  | .pause =>
      if console.phase = .running then
        console.suspendClocks.enter .paused
      else
        (console, [])
  | .resume =>
      if console.phase = .paused then
        (console.resumeClocks now).enter .running
      else
        (console, [])
  | .key key pressed =>
      ({ console with machine := console.machine.setKey key pressed },
        (Notice.ofKey key).map Signal.noted)
  | .inspect => (console, [.answered console.machine.state])
  | .shutdown => (console, [])

/-- The clock that fires first among those due by a moment. -/
def firing? (console : Console) (now : Nat) : Option Firing :=
  if console.phase = .running then
    match console.cycle.due? now, console.timer.due? now with
    | some cycle, some timer =>
        if timer < cycle then some .timer else some .cycle
    | some _, none => some .cycle
    | none, some _ => some .timer
    | none, none => none
  else
    none

/-- Executes one instruction.  A touched screen is published; a fault pauses the
console. -/
def fireCycle (console : Console) (now : Nat) : Console × List Signal :=
  match console.machine.step with
  | (machine, .ok _) =>
      ({ console with
          machine := machine
          cycle := console.cycle.fire now
          pending :=
            if machine.state.redraw then
              some machine.state.screen
            else
              console.pending },
        [])
  | (machine, .error fault) =>
      let (halted, announced) :=
        { console with machine := machine }.suspendClocks.enter .paused
      (halted, .noted (.halted fault) :: announced)

def fireTimer (console : Console) (now : Nat) : Console × List Signal :=
  match console.machine.tick with
  | (machine, expired) =>
      ({ console with
          machine := machine
          timer := console.timer.fire now },
        if expired then [.noted .soundExpired, .sounded] else [])

def fire (console : Console) (now : Nat) : Firing → Console × List Signal
  | .cycle => console.fireCycle now
  | .timer => console.fireTimer now

/-- How far both clocks are behind. -/
def backlog (console : Console) (now : Nat) : Nat :=
  console.cycle.backlog now + console.timer.backlog now

theorem enter_cycle (console : Console) (phase : Phase) :
    (console.enter phase).1.cycle = console.cycle := by
  unfold enter
  split <;> rfl

theorem enter_timer (console : Console) (phase : Phase) :
    (console.enter phase).1.timer = console.timer := by
  unfold enter
  split <;> rfl

theorem backlog_fireCycle_lt {console : Console} {now : Nat}
    (isDue : (console.cycle.due? now).isSome) :
    (console.fireCycle now).1.backlog now < console.backlog now := by
  have closer := Ticker.backlog_fire_lt isDue
  unfold fireCycle backlog
  split
  · simp only
    omega
  · simp only [enter_cycle, enter_timer, suspendClocks,
      Ticker.backlog_suspend]
    omega

theorem backlog_fireTimer_lt {console : Console} {now : Nat}
    (isDue : (console.timer.due? now).isSome) :
    (console.fireTimer now).1.backlog now < console.backlog now := by
  have closer := Ticker.backlog_fire_lt isDue
  simp only [fireTimer, backlog]
  omega

theorem due_of_firing?_cycle {console : Console} {now : Nat}
    (found : console.firing? now = some .cycle) :
    (console.cycle.due? now).isSome := by
  unfold firing? at found
  grind

theorem due_of_firing?_timer {console : Console} {now : Nat}
    (found : console.firing? now = some .timer) :
    (console.timer.due? now).isSome := by
  unfold firing? at found
  grind

/-- Every firing brings the console closer to having caught up. -/
theorem backlog_fire_lt {console : Console} {now : Nat} {firing : Firing}
    (found : console.firing? now = some firing) :
    (console.fire now firing).1.backlog now < console.backlog now := by
  cases firing with
  | cycle => exact backlog_fireCycle_lt (due_of_firing?_cycle found)
  | timer => exact backlog_fireTimer_lt (due_of_firing?_timer found)

/-- Fires whatever is due by a moment, behind signals already sent. -/
def catchUpFrom
    (now : Nat) (console : Console) (sent : List Signal) :
    Console × List Signal :=
  match _found : console.firing? now with
  | none => (console, sent)
  | some firing =>
      catchUpFrom now (console.fire now firing).1
        (sent ++ (console.fire now firing).2)
termination_by console.backlog now
decreasing_by exact backlog_fire_lt _found

/-- Fires whatever is due by a moment, earliest first. -/
def catchUp (console : Console) (now : Nat) : Console × List Signal :=
  catchUpFrom now console []

/-- The earlier of the two deadlines. -/
def nextDeadline? (console : Console) : Option Nat :=
  match console.cycle.next, console.timer.next with
  | some cycle, some timer => some (min cycle timer)
  | some cycle, none => some cycle
  | none, timer => timer

/-- Takes the frame not yet sampled, if the console runs.  It is handed on when
somebody listens and lost otherwise. -/
def sample (console : Console) (listening : Bool) :
    Console × Option Screen :=
  if console.published = .running then
    ({ console with pending := none },
      if listening then console.pending else none)
  else
    (console, none)

end Console

end ChipEight
