import ChipEight.Proofs.Console.Deeds
import ChipEight.Proofs.Machine.Timers
import Mathlib.Data.List.Range

/-!
# Sounds

The machine of a console goes through a run of its own.  Its stimuli are read off what
happens to the console: a request resets the machine, sets a key or does nothing to it,
and catching up contributes one stimulus for each of its firings.  Whatever the console
goes through, it sends one sound for every tick of that run that finds the sound timer
run out, and none besides.
-/

namespace ChipEight

/-- What a firing does to the machine. -/
def Firing.stimulus : Firing → Stimulus
  | .cycle => .step
  | .timer => .tick

namespace Console

/-- What an event does to the machine, in order. -/
def stimuli (console : Console) (now : Nat) : Event → List Stimulus
  | .request (.restart program) =>
      (program.or console.program).toList.map .reset
  | .request (.key key pressed) => [.key key pressed]
  | .request _ => []
  | .catchUp => (console.firings now).map fun stage => stage.2.stimulus
  | .sample _ => []

variable {console : Console} {now : Nat}

theorem sounded_enter (console : Console) (phase : Phase) :
    (console.enter phase).2.count .sounded = 0 := by
  unfold enter
  split <;> rfl

theorem sounded_noted (notices : List Notice) :
    (notices.map Signal.noted).count .sounded = 0 := by
  rw [List.count_eq_zero]
  intro member
  obtain ⟨notice, _, isNoted⟩ := List.mem_map.mp member
  cases isNoted

theorem machine_fire (console : Console) (now : Nat) (firing : Firing) :
    (console.fire now firing).1.machine =
      (console.machine.respond firing.stimulus).1 := by
  cases firing with
  | timer => rfl
  | cycle =>
      rcases stepped : console.machine.step with ⟨machine, fault | executed⟩
      · simp only [fire, fireCycle, stepped, machine_enter]
        simp only [suspendClocks, Firing.stimulus, Machine.respond, stepped]
      · simp only [fire, fireCycle, stepped, Firing.stimulus,
          Machine.respond]

theorem sounded_fire (console : Console) (now : Nat) (firing : Firing) :
    (console.fire now firing).2.count .sounded =
      (console.machine.respond firing.stimulus).2.sounds.toNat := by
  cases firing with
  | timer =>
      simp only [fire, fireTimer, Firing.stimulus, Machine.respond,
        Response.sounds]
      cases console.machine.tick.2 <;> rfl
  | cycle =>
      rcases stepped : console.machine.step with ⟨machine, fault | executed⟩
      · have silent :=
          sounded_enter
            ({ console with machine := machine }.suspendClocks) .paused
        simp only [fire, fireCycle, stepped, Firing.stimulus,
          Machine.respond, Response.sounds, Bool.toNat_false]
        rw [List.count_cons_of_ne (by simp)]
        exact silent
      · simp only [fire, fireCycle, stepped, Firing.stimulus,
          Machine.respond, Response.sounds, Bool.toNat_false,
          List.count_nil]

theorem catchUpFrom_stimuli (console : Console) (sent : List Signal) :
    (catchUpFrom now console sent).1.machine =
        (console.machine.run (console.stimuli now .catchUp)).1 ∧
      (catchUpFrom now console sent).2.count .sounded =
        sent.count .sounded +
          console.machine.soundTriggers (console.stimuli now .catchUp) := by
  induction console, sent using catchUpFrom.induct now with
  | case1 console sent nothing =>
      have idle : console.stimuli now .catchUp = [] := by
        simp only [stimuli, firings_of_none nothing, List.map_nil]
      rw [catchUpFrom_of_none nothing, idle]
      exact ⟨rfl, rfl⟩
  | case2 console sent firing found inductionHypothesis =>
      have first :
          console.stimuli now .catchUp =
            firing.stimulus ::
              (console.fire now firing).1.stimuli now .catchUp := by
        simp only [stimuli, firings_of_some found, List.map_cons]
      obtain ⟨sameMachine, sounded⟩ := inductionHypothesis
      rw [machine_fire] at sameMachine sounded
      rw [catchUpFrom_of_some found, first]
      refine ⟨sameMachine, ?_⟩
      rw [sounded, List.count_append, sounded_fire, Nat.add_assoc]
      congr 1
      simp only [Machine.soundTriggers, Machine.run, List.countP_cons]
      cases (console.machine.respond firing.stimulus).2.sounds <;>
        simp [Nat.add_comm]

theorem handle_stimuli (console : Console) (now : Nat) (request : Request) :
    (console.handle now request).1.machine =
        (console.machine.run (console.stimuli now (.request request))).1 ∧
      (console.handle now request).2.count .sounded = 0 ∧
      console.machine.soundTriggers
        (console.stimuli now (.request request)) = 0 := by
  cases request with
  | restart program =>
      cases found : program.or console.program with
      | none =>
          simp only [handle, restart, stimuli, found]
          exact ⟨rfl, rfl, rfl⟩
      | some loaded =>
          simp only [handle, restart, stimuli, found, machine_enter,
            List.count_append, sounded_enter, sounded_noted, true_and]
          exact ⟨rfl, rfl⟩
  | pause =>
      by_cases running : console.phase = .running
      · simp only [handle, if_pos running, machine_enter, sounded_enter,
          true_and]
        exact ⟨rfl, rfl⟩
      · simp only [handle, if_neg running]
        exact ⟨rfl, rfl, rfl⟩
  | resume =>
      by_cases paused : console.phase = .paused
      · simp only [handle, if_pos paused, machine_enter, sounded_enter,
          true_and]
        exact ⟨rfl, rfl⟩
      · simp only [handle, if_neg paused]
        exact ⟨rfl, rfl, rfl⟩
  | key key pressed => exact ⟨rfl, sounded_noted _, rfl⟩
  | inspect => exact ⟨rfl, rfl, rfl⟩
  | shutdown => exact ⟨rfl, rfl, rfl⟩

end Console

namespace Transcript

/-- What a history does to the machine, in order. -/
def stimuli (transcript : Transcript) :
    List (Nat × Event) → List Stimulus
  | [] => []
  | (now, event) :: rest =>
      transcript.console.stimuli now event ++
        (transcript.next now event).stimuli rest

theorem next_stimuli
    (transcript : Transcript) (now : Nat) (event : Event) :
    (transcript.next now event).console.machine =
        (transcript.console.machine.run
          (transcript.console.stimuli now event)).1 ∧
      (transcript.next now event).signals.count .sounded =
        transcript.signals.count .sounded +
          transcript.console.machine.soundTriggers
            (transcript.console.stimuli now event) := by
  cases event with
  | request request =>
      obtain ⟨sameMachine, silent, noTrigger⟩ :=
        transcript.console.handle_stimuli now request
      refine ⟨sameMachine, ?_⟩
      rw [noTrigger, next, record, List.count_append, silent]
  | catchUp =>
      obtain ⟨sameMachine, sounded⟩ :=
        @Console.catchUpFrom_stimuli now transcript.console []
      refine ⟨sameMachine, ?_⟩
      rw [next, record, List.count_append]
      rw [List.count_nil, Nat.zero_add] at sounded
      exact congrArg _ sounded
  | sample listening =>
      exact ⟨transcript.console.machine_sample listening, rfl⟩

theorem run_stimuli
    (transcript : Transcript) (history : List (Nat × Event)) :
    (transcript.run history).console.machine =
        (transcript.console.machine.run (transcript.stimuli history)).1 ∧
      (transcript.run history).signals.count .sounded =
        transcript.signals.count .sounded +
          transcript.console.machine.soundTriggers
            (transcript.stimuli history) := by
  induction history generalizing transcript with
  | nil => exact ⟨rfl, rfl⟩
  | cons entry rest inductionHypothesis =>
      obtain ⟨now, event⟩ := entry
      obtain ⟨sameMachine, sounded⟩ := transcript.next_stimuli now event
      obtain ⟨sameLater, soundedLater⟩ :=
        inductionHypothesis (transcript.next now event)
      rw [sameMachine] at sameLater soundedLater
      have split := transcript.console.machine.run_append
        (transcript.console.stimuli now event)
        ((transcript.next now event).stimuli rest)
      constructor
      · rw [run, sameLater, stimuli, split]
      · rw [run, soundedLater, sounded, stimuli, Nat.add_assoc]
        congr 1
        simp only [Machine.soundTriggers, split, List.countP_append]

/-- In every run of a machine without a reset the timers count down from what they were
last set to.  A sound timer set to a number stands at that number less the ticks since,
and is absent once there were more ticks than that; of these ticks exactly the one behind
as many as the number finds it run out, and no tick does before the timer was first set.
No more sounds are triggered than the timer was set.  The delay timer stands at what it
was last set to less the ticks since, and at zero once there were more.

A console sends one sound for each tick of its machine that finds the sound timer run
out, and nothing else it does sends one.  So whatever it goes through, it sends as many
sounds as are triggered in the run its machine goes through. -/
theorem countdown_law :
    (∀ (machine : Machine) (stimuli : List Stimulus),
        (∀ program, .reset program ∉ stimuli) →
          machine.CountsDown stimuli) ∧
      (∀ (console : Console) (now : Nat) (firing : Firing),
        (console.fire now firing).2.count .sounded =
          if firing = .timer ∧ console.machine.tick.2 = true then
            1
          else
            0) ∧
      (∀ (console : Console) (now : Nat) (request : Request),
        .sounded ∉ (console.handle now request).2) ∧
      ∀ (console : Console) (history : List (Nat × Event)),
        let transcript := (start console).run history
        let stimuli := (start console).stimuli history
        transcript.console.machine = (console.machine.run stimuli).1 ∧
          transcript.signals.count .sounded =
            console.machine.soundTriggers stimuli := by
  refine ⟨fun machine stimuli => machine.countsDown, ?_, ?_, ?_⟩
  · intro console now firing
    rw [Console.sounded_fire]
    cases firing with
    | cycle => rfl
    | timer =>
        simp only [Firing.stimulus, Machine.respond, Response.sounds,
          true_and]
        cases console.machine.tick.2 <;> rfl
  · intro console now request
    exact List.count_eq_zero.mp (console.handle_stimuli now request).2.1
  · intro console history transcript stimuli
    obtain ⟨sameMachine, sounded⟩ := (start console).run_stimuli history
    refine ⟨sameMachine, sounded.trans ?_⟩
    exact Nat.zero_add _

/-- A program sets both timers to one.  The second tick behind that finds the sound timer
run out; on a console it is the one that sends the only sound. -/
theorem countdown_law_shortTone :
    let program : List UInt8 :=
      [0x60, 0x01, 0xF0, 0x18, 0xF0, 0x15, 0x12, 0x06]
    let machine := (Machine.fresh (KeyStream.ofSeed 0)).reset program
    let later : List Stimulus := [.tick, .key 3 true, .step, .tick, .tick]
    let console := Console.ofSettings { cycleRate := 100 }
    let history : List (Nat × Event) :=
      [(0, .request (.restart (some program))), (60000000, .catchUp)]
    (∀ program, .reset program ∉ .step :: .step :: later) ∧
      machine.LastExecuted (.step :: .step :: later) Instruction.setsSound
        (.setSound 0) machine.step.1 later ∧
      (machine.run (.step :: .step :: later)).1.state.soundTimer = none ∧
      machine.step.1.step.1.expirations later = [false, true, false] ∧
      (machine.run (.step :: .step :: later)).1.state.delayTimer.toNat =
        0 ∧
      ((start console).run history).signals.count .sounded = 1 := by
  intro program machine later console history
  have noReset : ∀ program, .reset program ∉ .step :: .step :: later := by
    simp [later]
  have lastSound :
      machine.LastExecuted (.step :: .step :: later) Instruction.setsSound
        (.setSound 0) machine.step.1 later := {
    reached := ⟨[.step], rfl, rfl⟩
    executed := by decide +kernel
    last := by decide +kernel }
  have lastDelay :
      machine.LastExecuted (.step :: .step :: later) Instruction.setsDelay
        (.setDelay 0)
        (machine.run [.step, .step, .tick, .key 3 true]).1
        [.tick, .tick] := {
    reached := ⟨[.step, .step, .tick, .key 3 true], rfl, rfl⟩
    executed := by decide +kernel
    last := by decide +kernel }
  have law := countdown_law.1 machine (.step :: .step :: later) noReset
  obtain ⟨timer, flags⟩ := law.sound 0 machine.step.1 later lastSound
  have delay := law.delay 0 _ _ lastDelay
  have sounded := (countdown_law.2.2.2 console history).2
  have length : (machine.step.1.state.register 0).toNat = 1 := by
    decide +kernel
  have delayLength :
      ((machine.run
        [.step, .step, .tick, .key 3 true]).1.state.register 0).toNat =
          1 := by
    decide +kernel
  rw [length] at timer flags
  rw [delayLength] at delay
  refine ⟨noReset, lastSound, timer, flags, delay, sounded.trans ?_⟩
  decide +kernel

end Transcript

end ChipEight
