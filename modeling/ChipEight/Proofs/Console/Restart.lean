import ChipEight.Proofs.Console.Phases

/-!
# Starting over

A console that is handed a program forgets everything it went through.  What it
becomes is written down as `Console.begun`, which knows of the settings, the random
source, the program and the moment, and of nothing else; `handle_restart_eq_begun`
says that every console gets there.  What it does from then on is the same whatever
it did before: `restart_erases_past`.

The clocks are the delicate part.  A ticker that runs keeps its deadline when it is
resumed, so the old deadlines are gone only because loading a program stops both
clocks first.
-/

namespace ChipEight

namespace Ticker

theorem suspend_resume (ticker : Ticker) (now : Nat) :
    (ticker.resume now).suspend = ticker.suspend := by
  unfold resume
  split <;> rfl

theorem suspend_fire (ticker : Ticker) (now : Nat) :
    (ticker.fire now).suspend = ticker.suspend := by
  unfold fire
  split <;> rfl

end Ticker

namespace Console

/-- Both clocks keep the rates they were given. -/
structure Paced (console : Console) (settings : Settings) : Prop where
  cycle : console.cycle.suspend = Ticker.ofRate settings.cycleRate
  timer : console.timer.suspend = Ticker.ofRate timerRate

variable {console : Console} {settings : Settings}

theorem Paced.suspendClocks (paced : console.Paced settings) :
    console.suspendClocks.Paced settings :=
  ⟨paced.cycle, paced.timer⟩

theorem Paced.resumeClocks (paced : console.Paced settings) (now : Nat) :
    (console.resumeClocks now).Paced settings :=
  ⟨(Ticker.suspend_resume _ now).trans paced.cycle,
    (Ticker.suspend_resume _ now).trans paced.timer⟩

theorem Paced.enter (paced : console.Paced settings) (phase : Phase) :
    (console.enter phase).1.Paced settings where
  cycle := by
    rw [enter_cycle]
    exact paced.cycle
  timer := by
    rw [enter_timer]
    exact paced.timer

theorem Paced.load
    (paced : console.Paced settings) (program : List UInt8) :
    (console.load program).Paced settings :=
  ⟨paced.cycle, paced.timer⟩

theorem Paced.handle
    (paced : console.Paced settings) (now : Nat) (request : Request) :
    (console.handle now request).1.Paced settings := by
  cases request with
  | restart program =>
      cases found : program.or console.program with
      | none =>
          simp only [Console.handle, Console.restart, found]
          exact paced
      | some loaded =>
          simp only [Console.handle, Console.restart, found]
          exact ((paced.load loaded).resumeClocks now).enter .running
  | pause =>
      simp only [Console.handle]
      split
      · exact paced.suspendClocks.enter .paused
      · exact paced
  | resume =>
      simp only [Console.handle]
      split
      · exact (paced.resumeClocks now).enter .running
      · exact paced
  | key key pressed => exact ⟨paced.cycle, paced.timer⟩
  | inspect => exact paced
  | shutdown => exact paced

theorem Paced.fire
    (paced : console.Paced settings) (now : Nat) (firing : Firing) :
    (console.fire now firing).1.Paced settings := by
  cases firing with
  | cycle =>
      rcases stepped : console.machine.step with ⟨machine, fault | executed⟩
      · have stopped :
            Paced { console with machine := machine } settings :=
          ⟨paced.cycle, paced.timer⟩
        simp only [Console.fire, Console.fireCycle, stepped]
        exact stopped.suspendClocks.enter .paused
      · simp only [Console.fire, Console.fireCycle, stepped]
        exact ⟨(Ticker.suspend_fire _ now).trans paced.cycle, paced.timer⟩
  | timer =>
      exact ⟨paced.cycle, (Ticker.suspend_fire _ now).trans paced.timer⟩

theorem Paced.sample
    (paced : console.Paced settings) (listening : Bool) :
    (console.sample listening).1.Paced settings := by
  by_cases running : console.published = .running
  · simp only [Console.sample, if_pos running]
    exact ⟨paced.cycle, paced.timer⟩
  · simp only [Console.sample, if_neg running]
    exact paced

/-- A console that has just been given a program. -/
def begun
    (settings : Settings) (source : KeyStream) (program : List UInt8)
    (now : Nat) : Console where
  machine := { state := State.ofProgram program, source := source }
  program := some program
  phase := .running
  published := .running
  cycle := (Ticker.ofRate settings.cycleRate).resume now
  timer := (Ticker.ofRate timerRate).resume now
  pending := none

theorem enter_of_published
    (published : console.published = console.phase) (phase : Phase) :
    (console.enter phase).1 =
      { console with phase := phase, published := phase } := by
  by_cases already : console.phase = phase
  · subst already
    rw [enter, if_pos rfl]
    cases console
    cases published
    rfl
  · rw [enter, if_neg already]

/-- Handing a program to a console makes it begin, whatever it was. -/
theorem handle_restart_eq_begun
    (published : console.published = console.phase)
    (paced : console.Paced settings) (program : List UInt8) (now : Nat) :
    (console.handle now (.restart (some program))).1 =
      begun settings console.machine.source program now := by
  have shown :
      ((console.load program).resumeClocks now).published =
        ((console.load program).resumeClocks now).phase := published
  have loads : (some program).or console.program = some program := rfl
  simp only [handle, restart, loads, enter_of_published shown]
  -- Both clocks were stopped by loading, so no old deadline is left to keep.
  simp only [begun, resumeClocks, load, suspendClocks, paced.cycle,
    paced.timer, Machine.reset]

end Console

namespace Transcript

theorem paced_run
    (settings : Settings) (source : KeyStream)
    (history : List (Nat × Event)) :
    ((start (Console.idle settings source)).run history).console.Paced
      settings := by
  refine run_keeps
    (fun transcript => transcript.console.Paced settings)
    ?_ ?_ ?_ ⟨rfl, rfl⟩ history
  · exact fun _ now request paced => paced.handle now request
  · exact fun _ now firing _ paced => paced.fire now firing
  · exact fun _ listening paced => paced.sample listening

theorem console_restart
    (settings : Settings) (source : KeyStream)
    (history : List (Nat × Event)) (program : List UInt8) (now : Nat) :
    let transcript := (start (Console.idle settings source)).run history
    (transcript.next now (.request (.restart (some program)))).console =
      Console.begun settings transcript.console.machine.source program
        now :=
  Console.handle_restart_eq_begun
    (coherent_run settings source history).published
    (paced_run settings source history) program now

/-- Take any two consoles that started out idle, with the same cycle rate, and went
through any histories, and let their random sources be in the same place.  If both
are handed the same program at the same moment, then whatever happens to both from
then on they become the same console and have sent the same signals and handed on the
same frames since.  Right after they were handed the program their machines hold it
and nothing else, no frame waits, and both clocks are due a full period later. -/
theorem restart_erases_past
    (settings otherSettings : Settings) (source otherSource : KeyStream)
    (history otherHistory : List (Nat × Event))
    (program : List UInt8) (now : Nat)
    (sameRate : otherSettings.cycleRate = settings.cycleRate)
    (sameSource :
      ((start (Console.idle otherSettings otherSource)).run
          otherHistory).console.machine.source =
        ((start (Console.idle settings source)).run
          history).console.machine.source) :
    let transcript := (start (Console.idle settings source)).run history
    let other :=
      (start (Console.idle otherSettings otherSource)).run otherHistory
    let restart := Event.request (.restart (some program))
    let restarted := transcript.next now restart
    let otherRestarted := other.next now restart
    (∀ later, ∃ since : Transcript,
        restarted.run later = restarted.followedBy since ∧
          otherRestarted.run later = otherRestarted.followedBy since) ∧
      restarted.console.machine =
        { state := State.ofProgram program
          source := transcript.console.machine.source } ∧
      restarted.console.phase = .running ∧
      restarted.console.pending = none ∧
      restarted.console.cycle.next =
        some (now + Ticker.periodOf settings.cycleRate) ∧
      restarted.console.timer.next =
        some (now + Ticker.periodOf timerRate) := by
  intro transcript other restart restarted otherRestarted
  have begun := console_restart settings source history program now
  have otherBegun :=
    console_restart otherSettings otherSource otherHistory program now
  have sameConsole : otherRestarted.console = restarted.console := by
    refine otherBegun.trans (Eq.trans ?_ begun.symm)
    simp only [Console.begun, sameRate, sameSource]
  refine ⟨?_, ?_⟩
  · intro later
    refine ⟨(start restarted.console).run later,
      restarted.run_eq_followedBy later, ?_⟩
    rw [← sameConsole]
    exact otherRestarted.run_eq_followedBy later
  · rw [begun]
    exact ⟨rfl, rfl, rfl, rfl, rfl⟩

/-- One console is paused with a random number in a register, another has drawn
something, drawn its random number too and met an unknown instruction.  They become
the same. -/
theorem restart_erases_past_faulted :
    let settings : Settings := {}
    let idle := start (Console.idle settings settings.source)
    let transcript := idle.run
      [(0, .request (.restart (some [0xC0, 0xFF]))), (2000000, .catchUp),
        (3000000, .request .pause)]
    let other := idle.run
      [(0, .request (.restart (some [0xD0, 0x05, 0xC1, 0x0F, 0xFF, 0xFF]))),
        (1000000, .request (.key 7 true)), (6000000, .catchUp)]
    let restart := Event.request (.restart (some [0x12, 0x00]))
    let restarted := transcript.next 9000000 restart
    let otherRestarted := other.next 9000000 restart
    other.console.machine.source = transcript.console.machine.source ∧
      other.console.machine.state ≠ transcript.console.machine.state ∧
      other.console.pending ≠ transcript.console.pending ∧
      ∀ later, ∃ since : Transcript,
        restarted.run later = restarted.followedBy since ∧
          otherRestarted.run later = otherRestarted.followedBy since := by
  intro settings idle transcript other restart restarted otherRestarted
  obtain ⟨sameSource, otherState, otherFrame⟩ :
      other.console.machine.source = transcript.console.machine.source ∧
        other.console.machine.state ≠ transcript.console.machine.state ∧
        other.console.pending ≠ transcript.console.pending := by
    decide +kernel
  refine ⟨sameSource, otherState, otherFrame, ?_⟩
  exact (restart_erases_past settings settings settings.source
    settings.source _ _ [0x12, 0x00] 9000000 rfl sameSource).1

end Transcript

end ChipEight
