import ChipEight.Proofs.Console.Transcript

/-!
# Phases, clocks and announcements

Five things about a console move together: its phase, the phase it shows to
others, its two clocks, whether it has a program, and the phases it has announced
so far.  `Coherent` says how, every operation keeps it, and `phases_run` says
what it comes to for a console that started out idle.
-/

namespace ChipEight

/-- The phase after a number of announcements. -/
def Phase.turn : Nat → Phase
  | 0 => .initial
  | count + 1 => if count % 2 = 0 then .running else .paused

theorem Phase.turn_succ_ne_initial (count : Nat) :
    turn (count + 1) ≠ .initial := by
  by_cases even : count % 2 = 0
  · rw [turn, if_pos even]
    decide
  · rw [turn, if_neg even]
    decide

theorem Phase.turn_succ_of_ne_running
    {count : Nat} (standing : turn count ≠ .running) :
    turn (count + 1) = .running := by
  cases count with
  | zero => rfl
  | succ count =>
      have odd : ¬ count % 2 = 0 := by
        intro even
        exact standing (if_pos even)
      exact if_pos (by omega)

theorem Phase.turn_succ_of_eq_running
    {count : Nat} (running : turn count = .running) :
    turn (count + 1) = .paused := by
  cases count with
  | zero => cases running
  | succ count =>
      by_cases even : count % 2 = 0
      · exact if_neg (by omega)
      · rw [turn, if_neg even] at running
        cases running

/-- The phases a list of signals announces. -/
def Signal.phases (signals : List Signal) : List Phase :=
  signals.filterMap Signal.phase?

theorem Signal.phases_append (earlier later : List Signal) :
    phases (earlier ++ later) = phases earlier ++ phases later :=
  List.filterMap_append

theorem Signal.phases_noted (notices : List Notice) :
    phases (notices.map Signal.noted) = [] := by
  unfold phases
  rw [List.filterMap_map]
  exact List.filterMap_eq_nil_iff.mpr fun _ _ => rfl

/-- Whether an event hands a program to the console. -/
def Event.loads : Event → Bool
  | .request (.restart (some _)) => true
  | _ => false

namespace Ticker

theorem isSome_resume (ticker : Ticker) (now : Nat) :
    (ticker.resume now).next.isSome := by
  unfold resume
  split
  next => rfl
  next deadline scheduled => rw [scheduled]; rfl

theorem isSome_fire
    {ticker : Ticker} (scheduled : ticker.next.isSome) (now : Nat) :
    (ticker.fire now).next.isSome := by
  unfold fire
  split
  next => rfl
  next => exact scheduled

end Ticker

namespace Console

/-- The phases announced so far end in the present one, by turns. -/
structure InTurn (console : Console) (announced : List Phase) : Prop where
  published : console.published = console.phase
  turns : announced =
    (List.range announced.length).map fun index =>
      Phase.turn (index + 1)
  latest : console.phase = Phase.turn announced.length

/-- Announcements, clocks and program agree with the phase. -/
structure Coherent (console : Console) (announced : List Phase) : Prop
    extends console.InTurn announced where
  ticking : console.phase = .running →
    console.cycle.next.isSome ∧ console.timer.next.isSome
  still : console.phase ≠ .running →
    console.cycle.next = none ∧ console.timer.next = none
  unloaded : console.phase = .initial ↔ console.program = none

variable {console : Console} {announced : List Phase}

theorem InTurn.getElem?_announced
    (inTurn : console.InTurn announced)
    {index : Nat} (present : index < announced.length) :
    announced[index]? = some (Phase.turn (index + 1)) := by
  rw [inTurn.turns, List.getElem?_map, List.getElem?_range present,
    Option.map_some]

theorem InTurn.getLast?_announced
    (inTurn : console.InTurn announced) :
    announced.getLast? =
      if console.phase = .initial then none else some console.phase := by
  rw [List.getLast?_eq_getElem?, inTurn.latest]
  cases size : announced.length with
  | zero =>
      rw [List.length_eq_zero_iff.mp size]
      rfl
  | succ count =>
      rw [if_neg (Phase.turn_succ_ne_initial count), Nat.add_sub_cancel]
      exact inTurn.getElem?_announced (by omega)

/-- Entering the phase whose turn it is keeps the turns. -/
theorem InTurn.enter
    (inTurn : console.InTurn announced) (phase : Phase)
    (itsTurn : console.phase ≠ phase →
      Phase.turn (announced.length + 1) = phase) :
    (console.enter phase).1.InTurn
        (announced ++ Signal.phases (console.enter phase).2) ∧
      (console.enter phase).1.phase = phase ∧
      (console.enter phase).1.program = console.program := by
  by_cases already : console.phase = phase
  · have unchanged : console.enter phase = (console, []) := if_pos already
    rw [unchanged]
    refine ⟨?_, already, rfl⟩
    exact (List.append_nil announced).symm ▸ inTurn
  · have entered :
        console.enter phase =
          ({ console with phase := phase, published := phase },
            [.noted (.phaseChanged console.phase phase),
              .entered phase]) := if_neg already
    have announcement : Signal.phases (console.enter phase).2 = [phase] := by
      rw [entered]
      rfl
    have next := itsTurn already
    rw [announcement, entered]
    refine ⟨⟨rfl, ?_, ?_⟩, rfl, rfl⟩
    · rw [List.length_append, List.length_singleton, List.range_succ,
        List.map_append, ← inTurn.turns, List.map_singleton, next]
    · rw [List.length_append, List.length_singleton, next]

/-- A console whose clocks stand still starts running with both of them going. -/
theorem InTurn.run
    (inTurn : console.InTurn announced)
    (loaded : console.program ≠ none) (now : Nat) :
    ((console.resumeClocks now).enter .running).1.Coherent
      (announced ++
        Signal.phases ((console.resumeClocks now).enter .running).2) := by
  have resumed : (console.resumeClocks now).InTurn announced :=
    ⟨inTurn.published, inTurn.turns, inTurn.latest⟩
  obtain ⟨entered, running, sameProgram⟩ :=
    resumed.enter .running fun standing =>
      Phase.turn_succ_of_ne_running (inTurn.latest ▸ standing)
  refine ⟨entered, fun _ => ?_, fun standing => absurd running standing, ?_⟩
  · rw [enter_cycle, enter_timer]
    exact ⟨Ticker.isSome_resume _ now, Ticker.isSome_resume _ now⟩
  · rw [running, sameProgram]
    exact iff_of_false (by decide) loaded

/-- A running console that stops its clocks pauses. -/
theorem Coherent.pause
    (coherent : console.Coherent announced)
    (running : console.phase = .running) :
    (console.suspendClocks.enter .paused).1.Coherent
      (announced ++
        Signal.phases (console.suspendClocks.enter .paused).2) := by
  have suspended : console.suspendClocks.InTurn announced :=
    ⟨coherent.published, coherent.turns, coherent.latest⟩
  obtain ⟨entered, paused, sameProgram⟩ :=
    suspended.enter .paused fun _ =>
      Phase.turn_succ_of_eq_running (coherent.latest ▸ running)
  have loaded : console.program ≠ none := by
    intro missing
    have initial := coherent.unloaded.mpr missing
    rw [running] at initial
    cases initial
  refine ⟨entered, fun running => ?_, fun _ => ?_, ?_⟩
  · rw [paused] at running
    cases running
  · rw [enter_cycle, enter_timer]
    exact ⟨rfl, rfl⟩
  · rw [paused, sameProgram]
    exact iff_of_false (by decide) loaded

/-- What touches none of the five keeps them together. -/
theorem Coherent.congr
    (coherent : console.Coherent announced) {other : Console}
    (samePhase : other.phase = console.phase)
    (samePublished : other.published = console.published)
    (sameProgram : other.program = console.program)
    (sameCycle :
      other.cycle.next.isSome = console.cycle.next.isSome)
    (sameTimer :
      other.timer.next.isSome = console.timer.next.isSome) :
    other.Coherent announced where
  published := by
    rw [samePublished, samePhase]
    exact coherent.published
  turns := coherent.turns
  latest := samePhase.trans coherent.latest
  ticking running := by
    rw [sameCycle, sameTimer]
    exact coherent.ticking (samePhase ▸ running)
  still standing := by
    have stopped := coherent.still (samePhase ▸ standing)
    rw [← Option.not_isSome_iff_eq_none, ← Option.not_isSome_iff_eq_none,
      sameCycle, sameTimer, Option.not_isSome_iff_eq_none,
      Option.not_isSome_iff_eq_none]
    exact stopped
  unloaded := by
    rw [samePhase, sameProgram]
    exact coherent.unloaded

/-- Loading a program stops the clocks and leaves the turns alone. -/
theorem InTurn.load
    (inTurn : console.InTurn announced) (program : List UInt8) :
    (console.load program).InTurn announced :=
  ⟨inTurn.published, inTurn.turns, inTurn.latest⟩

theorem Coherent.restart
    (coherent : console.Coherent announced)
    (program : Option (List UInt8)) (now : Nat) :
    (console.restart program now).1.Coherent
      (announced ++
        Signal.phases (console.restart program now).2) := by
  cases found : program.or console.program with
  | none =>
      have silent :
          announced ++ Signal.phases [.noted .nothingToRestart] =
            announced := List.append_nil announced
      simp only [Console.restart, found, silent]
      exact coherent
  | some loaded =>
      have running :=
        (coherent.toInTurn.load loaded).run
          (Option.some_ne_none loaded) now
      simp only [Console.restart, found, Signal.phases_append,
        Signal.phases_noted, List.nil_append]
      exact running

/-- Handling a request keeps announcements, clocks and program in line with the
phase. -/
theorem Coherent.handle
    (coherent : console.Coherent announced) (now : Nat)
    (request : Request) :
    (console.handle now request).1.Coherent
      (announced ++ Signal.phases (console.handle now request).2) := by
  have ignored :
      console.Coherent (announced ++ Signal.phases []) :=
    (List.append_nil announced).symm ▸ coherent
  cases request with
  | restart program => exact coherent.restart program now
  | pause =>
      by_cases running : console.phase = .running
      · simp only [Console.handle, if_pos running]
        exact coherent.pause running
      · simp only [Console.handle, if_neg running]
        exact ignored
  | resume =>
      by_cases paused : console.phase = .paused
      · have loaded : console.program ≠ none := by
          intro missing
          have initial := coherent.unloaded.mpr missing
          rw [paused] at initial
          cases initial
        simp only [Console.handle, if_pos paused]
        exact coherent.toInTurn.run loaded now
      · simp only [Console.handle, if_neg paused]
        exact ignored
  | key key pressed =>
      simp only [Console.handle, Signal.phases_noted, List.append_nil]
      exact coherent.congr rfl rfl rfl rfl rfl
  | inspect =>
      change console.Coherent (announced ++ [])
      exact ignored
  | shutdown => exact ignored

theorem program_enter (console : Console) (phase : Phase) :
    (console.enter phase).1.program = console.program := by
  unfold enter
  split <;> rfl

theorem machine_enter (console : Console) (phase : Phase) :
    (console.enter phase).1.machine = console.machine := by
  unfold enter
  split <;> rfl

theorem pending_enter (console : Console) (phase : Phase) :
    (console.enter phase).1.pending = console.pending := by
  unfold enter
  split <;> rfl

/-- No firing exchanges the program. -/
theorem program_fire
    (console : Console) (now : Nat) (firing : Firing) :
    (console.fire now firing).1.program = console.program := by
  cases firing with
  | cycle =>
      simp only [fire, fireCycle]
      split
      · rfl
      · exact program_enter _ _
  | timer => rfl

theorem running_of_firing?
    {now : Nat} {firing : Firing}
    (found : console.firing? now = some firing) :
    console.phase = .running := by
  by_cases running : console.phase = .running
  · exact running
  · rw [firing?, if_neg running] at found
    cases found

theorem Coherent.fireCycle
    (coherent : console.Coherent announced)
    (running : console.phase = .running) (now : Nat) :
    (console.fireCycle now).1.Coherent
      (announced ++ Signal.phases (console.fireCycle now).2) := by
  obtain ⟨cycleTicks, timerTicks⟩ := coherent.ticking running
  rcases stepped : console.machine.step with ⟨machine, fault | executed⟩
  · have halted :
        Console.Coherent { console with machine := machine } announced :=
      coherent.congr rfl rfl rfl rfl rfl
    simp only [Console.fireCycle, stepped]
    exact halted.pause running
  · simp only [Console.fireCycle, stepped, Signal.phases,
      List.filterMap_nil, List.append_nil]
    refine coherent.congr rfl rfl rfl ?_ rfl
    rw [Ticker.isSome_fire cycleTicks now, cycleTicks]

theorem Coherent.fireTimer
    (coherent : console.Coherent announced)
    (running : console.phase = .running) (now : Nat) :
    (console.fireTimer now).1.Coherent
      (announced ++ Signal.phases (console.fireTimer now).2) := by
  obtain ⟨cycleTicks, timerTicks⟩ := coherent.ticking running
  have silent : Signal.phases (console.fireTimer now).2 = [] := by
    unfold Console.fireTimer
    split
    split <;> rfl
  rw [silent, List.append_nil]
  refine coherent.congr rfl rfl rfl rfl ?_
  have fired := Ticker.isSome_fire timerTicks now
  exact fired.trans timerTicks.symm

theorem Coherent.fire
    (coherent : console.Coherent announced) (now : Nat)
    {firing : Firing} (found : console.firing? now = some firing) :
    (console.fire now firing).1.Coherent
      (announced ++ Signal.phases (console.fire now firing).2) := by
  have running := running_of_firing? found
  cases firing with
  | cycle => exact coherent.fireCycle running now
  | timer => exact coherent.fireTimer running now

theorem Coherent.sample
    (coherent : console.Coherent announced) (listening : Bool) :
    (console.sample listening).1.Coherent announced := by
  by_cases running : console.published = .running
  · simp only [Console.sample, if_pos running]
    exact coherent.congr rfl rfl rfl rfl rfl
  · simp only [Console.sample, if_neg running]
    exact coherent

theorem coherent_idle (settings : Settings) (source : KeyStream) :
    (idle settings source).Coherent [] where
  published := rfl
  turns := rfl
  latest := rfl
  ticking running := by cases running
  still _ := ⟨rfl, rfl⟩
  unloaded := iff_of_true rfl rfl

end Console

namespace Transcript

/-- After every history, announcements, clocks and program agree with the
phase. -/
theorem coherent_run
    (settings : Settings) (source : KeyStream)
    (history : List (Nat × Event)) :
    let transcript := (start (Console.idle settings source)).run history
    transcript.console.Coherent (Signal.phases transcript.signals) := by
  refine run_keeps
    (fun transcript =>
      transcript.console.Coherent (Signal.phases transcript.signals))
    ?_ ?_ ?_ (Console.coherent_idle settings source) history
  · intro transcript now request before
    simp only [record, Signal.phases_append]
    exact before.handle now request
  · intro transcript now firing found before
    simp only [record, Signal.phases_append]
    exact before.fire now found
  · intro transcript listening before
    exact before.sample listening

theorem program_catchUp (transcript : Transcript) (now : Nat) :
    (transcript.next now .catchUp).console.program =
      transcript.console.program := by
  refine catchUp_keeps
    (fun later =>
      later.console.program = transcript.console.program)
    ?_ rfl
  intro before firing _ same
  exact (Console.program_fire before.console now firing).trans same

/-- A console is without a program after an event just when it was before and
the event brings none. -/
theorem program_next
    (transcript : Transcript) (now : Nat) (event : Event) :
    (transcript.next now event).console.program = none ↔
      transcript.console.program = none ∧ event.loads = false := by
  cases event with
  | catchUp =>
      rw [program_catchUp]
      exact (and_iff_left rfl).symm
  | sample listening =>
      have same :
          (transcript.next now (.sample listening)).console.program =
            transcript.console.program := by
        simp only [next, sampled, Console.sample]
        split <;> rfl
      rw [same]
      exact (and_iff_left rfl).symm
  | request request =>
      cases request with
      | restart program =>
          cases program with
          | some loaded =>
              simp [next, record, Console.handle, Console.restart,
                Console.program_enter, Console.resumeClocks,
                Console.load, Event.loads]
          | none =>
              cases present : transcript.console.program <;>
                simp [next, record, Console.handle, Console.restart, present,
                  Console.program_enter, Console.resumeClocks,
                  Console.load, Event.loads]
      | pause =>
          simp only [next, record, Console.handle, Event.loads, and_true]
          split
          · rw [Console.program_enter]
            rfl
          · rfl
      | resume =>
          simp only [next, record, Console.handle, Event.loads, and_true]
          split
          · rw [Console.program_enter]
            rfl
          · rfl
      | key key pressed => exact (and_iff_left rfl).symm
      | inspect => exact (and_iff_left rfl).symm
      | shutdown => exact (and_iff_left rfl).symm

/-- A console is without a program exactly as long as no event has brought
one. -/
theorem program_run
    (transcript : Transcript) (history : List (Nat × Event)) :
    (transcript.run history).console.program = none ↔
      transcript.console.program = none ∧
        ∀ entry ∈ history, entry.2.loads = false := by
  induction history generalizing transcript with
  | nil => simp [run]
  | cons entry rest inductionHypothesis =>
      simp only [run, inductionHypothesis, program_next, List.forall_mem_cons,
        and_assoc]

/-- A console that starts out idle, with any settings and random source, and goes
through any history, shows the phase it is in; it runs exactly while both of its
clocks have a deadline, and otherwise neither has; it is in the initial phase
exactly as long as no program was handed to it; and what it has announced is
running and paused by turns, running first, up to the phase it is in. -/
theorem phases_run
    (settings : Settings) (source : KeyStream)
    (history : List (Nat × Event)) :
    let transcript := (start (Console.idle settings source)).run history
    let console := transcript.console
    let announced := Signal.phases transcript.signals
    console.published = console.phase ∧
      (console.phase = .running ↔
        console.cycle.next.isSome ∧ console.timer.next.isSome) ∧
      (console.phase ≠ .running ↔
        console.cycle.next = none ∧ console.timer.next = none) ∧
      (console.phase = .initial ↔
        ∀ entry ∈ history, entry.2.loads = false) ∧
      (∀ index (present : index < announced.length),
        announced[index] =
          if index % 2 = 0 then .running else .paused) ∧
      announced.getLast? =
        if console.phase = .initial then none else some console.phase := by
  intro transcript console announced
  have coherent : console.Coherent announced :=
    coherent_run settings source history
  have idle : (start (Console.idle settings source)).console.program =
      none := rfl
  refine ⟨coherent.published, ?_, ?_, ?_, ?_,
    coherent.getLast?_announced⟩
  · constructor
    · exact coherent.ticking
    · intro ticking
      by_cases running : console.phase = .running
      · exact running
      · rw [(coherent.still running).1] at ticking
        cases ticking.1
  · constructor
    · exact coherent.still
    · intro still running
      have ticking := (coherent.ticking running).1
      rw [still.1] at ticking
      cases ticking
  · rw [coherent.unloaded, program_run, and_iff_right idle]
  · intro index present
    have turn := coherent.getElem?_announced present
    rw [List.getElem?_eq_getElem present] at turn
    exact Option.some.inj turn

end Transcript

end ChipEight
