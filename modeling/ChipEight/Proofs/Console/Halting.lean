import ChipEight.Proofs.Console.Deeds

/-!
# Halting

An instruction that fails halts the console, and only loading a program gets it out
of there.  The machine is stuck: resuming the console lets its timers count on until
the next instruction is due, which fails like the one before it and halts the console
again.  `Halted` says how little of a transcript can differ from the one in which the
instruction failed; `fault_persists` says it of every history.
-/

namespace ChipEight

namespace Console

variable {console : Console} {fault : Fault}

theorem fireCycle_of_stuck
    (stuck : console.machine.Stuck fault) (now : Nat) :
    (console.fireCycle now).1 = (console.suspendClocks.enter .paused).1 := by
  have failed :
      console.machine.step = (console.machine, .error fault) := stuck
  simp only [fireCycle, failed]

/-- No firing gets a stuck console going again, or publishes a frame. -/
theorem fire_of_stuck
    (stuck : console.machine.Stuck fault) (now : Nat) (firing : Firing) :
    console.machine.SameProgress (console.fire now firing).1.machine ∧
      (console.fire now firing).1.pending = console.pending := by
  cases firing with
  | cycle =>
      rw [fire, fireCycle_of_stuck stuck, machine_enter, pending_enter]
      exact ⟨.refl _, rfl⟩
  | timer => exact ⟨Machine.sameProgress_tick _, rfl⟩

theorem stuck_of_mem_firings
    (stuck : console.machine.Stuck fault) {now : Nat}
    {before : Console} {firing : Firing}
    (found : (before, firing) ∈ console.firings now) :
    before.firing? now = some firing ∧ before.machine.Stuck fault := by
  have kept : ∀ (console : Console) firing,
      console.firing? now = some firing → console.machine.Stuck fault →
        (console.fire now firing).1.machine.Stuck fault :=
    fun _ firing _ stuck => (fire_of_stuck stuck now firing).1.stuck stuck
  exact firings_keep kept stuck (before, firing) found

/-- What a sample hands on, and what waits after it, is what waited. -/
theorem sample_sublist (console : Console) (listening : Bool) :
    ((console.sample listening).2.toList ++
        (console.sample listening).1.pending.toList).Sublist
      console.pending.toList := by
  by_cases running : console.published = .running
  · cases listening with
    | true =>
        simp only [sample, if_pos running, if_true, Option.toList_none,
          List.append_nil]
        exact List.Sublist.refl _
    | false =>
        simp only [sample, if_pos running, Bool.false_eq_true, if_false,
          Option.toList_none, List.append_nil]
        exact List.nil_sublist _
  · simp only [sample, if_neg running, Option.toList_none, List.nil_append]
    exact List.Sublist.refl _

end Console

namespace Transcript

/-! ## Getting stuck -/

/-- As long as a failed instruction is the latest that was done, the machine is
stuck. -/
theorem kept_stuck (fault : Fault) :
    Kept (fun _ => True) fun transcript done =>
      done.getLast? = some (.failed fault) →
        transcript.console.machine.Stuck fault where
  requested transcript done now request _ stuck latest := by
    rcases transcript.console.handle_cases now request with
      ⟨nothing, sameProgress, _⟩ | ⟨program, loaded, _⟩
    · rw [nothing, List.append_nil] at latest
      exact sameProgress.stuck (stuck latest)
    · rw [loaded, List.getLast?_concat] at latest
      cases latest
  fired transcript done now firing _ _ latest := by
    -- What the machine was before does not matter, only that it just failed.
    rw [List.getLast?_concat, Option.some.injEq] at latest
    cases firing with
    | timer => cases latest
    | cycle =>
        rcases stepped : transcript.console.machine.step with
          ⟨machine, met | executed⟩
        · simp only [Console.deed, stepped, Deed.failed.injEq] at latest
          subst latest
          simp only [record, Console.fire, Console.fireCycle, stepped,
            Console.machine_enter]
          exact Machine.stuck_of_step stepped
        · simp only [Console.deed, stepped, reduceCtorEq] at latest
  sampled transcript done now listening _ stuck latest := by
    simp only [sampled, Console.machine_sample]
    cases handedOn : (transcript.console.sample listening).2 with
    | none =>
        simp only [Console.deeds, handedOn, Option.toList_none,
          List.map_nil, List.append_nil] at latest
        exact stuck latest
    | some frame =>
        simp only [Console.deeds, handedOn, Option.toList_some,
          List.map_singleton, List.getLast?_concat, Option.some.injEq,
          reduceCtorEq] at latest

theorem stuck_run
    (settings : Settings) (source : KeyStream)
    (history : List (Nat × Event)) {fault : Fault}
    (failed : ((start (Console.idle settings source)).deeds
      history).getLast? = some (.failed fault)) :
    ((start (Console.idle settings source)).run
      history).console.machine.Stuck fault := by
  let idle := start (Console.idle settings source)
  have atFirst :
      ([] : List Deed).getLast? = some (.failed fault) →
        idle.console.machine.Stuck fault := nofun
  exact (kept_stuck fault).run atFirst history (fun _ _ => trivial) failed

/-! ## Remaining stuck -/

/-- What a transcript may have become since an instruction failed in it: its machine
is the same but for the keypad and the timers, and no frame was handed on or waits
but the one that waited then. -/
structure Halted (halted after : Transcript) : Prop where
  machine : halted.console.machine.SameProgress after.console.machine
  frames : ∃ shown,
    after.frames = halted.frames ++ shown ∧
      (shown ++ after.console.pending.toList).Sublist
        halted.console.pending.toList

variable {halted after : Transcript} {fault : Fault}

theorem Halted.refl (halted : Transcript) : halted.Halted halted where
  machine := .refl _
  frames := ⟨[], (List.append_nil _).symm, List.Sublist.refl _⟩

theorem Halted.step
    (same : halted.Halted after) {outcome : Console × List Signal}
    (sameProgress : after.console.machine.SameProgress outcome.1.machine)
    (samePending : outcome.1.pending = after.console.pending) :
    halted.Halted (after.record outcome) where
  machine := same.machine.trans sameProgress
  frames := by
    simp only [record, samePending]
    exact same.frames

theorem Halted.sample
    (same : halted.Halted after) (listening : Bool) :
    halted.Halted (after.sampled listening) := by
  obtain ⟨shown, sameFrames, fewer⟩ := same.frames
  refine ⟨?_, shown ++ (after.console.sample listening).2.toList, ?_, ?_⟩
  · simp only [sampled, Console.machine_sample]
    exact same.machine
  · simp only [sampled, sameFrames, List.append_assoc]
  · have noMore := after.console.sample_sublist listening
    rw [List.append_assoc]
    exact ((List.Sublist.refl shown).append noMore).trans fewer

theorem kept_halted (stuck : halted.console.machine.Stuck fault) :
    Kept (fun _ => True) fun after done =>
      (∀ deed ∈ done, deed.loads = false) → halted.Halted after where
  requested after done now request _ same unloaded := by
    obtain ⟨unloadedBefore, unloadedNow⟩ :=
      List.forall_mem_append.mp unloaded
    rcases after.console.handle_cases now request with
      ⟨_, sameProgress, samePending⟩ | ⟨program, loaded, _⟩
    · exact (same unloadedBefore).step sameProgress samePending
    · rw [loaded] at unloadedNow
      cases unloadedNow _ (List.mem_singleton_self _)
  fired after done now firing _ same unloaded := by
    have sameBefore := same (List.forall_mem_append.mp unloaded).1
    obtain ⟨sameProgress, samePending⟩ :=
      Console.fire_of_stuck (sameBefore.machine.stuck stuck) now firing
    exact sameBefore.step sameProgress samePending
  sampled after done now listening _ same unloaded :=
    (same (List.forall_mem_append.mp unloaded).1).sample listening

/-- Take any console that started out idle, with any settings and random source, and
went through any history of which the latest deed is an instruction that failed.
Whatever happens to it from then on, as long as no program is loaded: its machine
remains the same but for the keypad and the timers, and its random source does not
move; no frame is handed on or waits but the one that waited then; and every
instruction that is fired fails with the same fault, changes nothing, and leaves the
console paused with both clocks stopped. -/
theorem fault_persists
    (settings : Settings) (source : KeyStream)
    (history : List (Nat × Event)) (fault : Fault)
    (failed : ((start (Console.idle settings source)).deeds
      history).getLast? = some (.failed fault))
    (later : List (Nat × Event))
    (unloaded :
      ∀ deed ∈ ((start (Console.idle settings source)).run
        history).deeds later, deed.loads = false) :
    let halted := (start (Console.idle settings source)).run history
    let after := halted.run later
    halted.console.machine.SameProgress after.console.machine ∧
      (∃ shown,
        after.frames = halted.frames ++ shown ∧
          (shown ++ after.console.pending.toList).Sublist
            halted.console.pending.toList) ∧
      ∀ now before, (before, .cycle) ∈ after.console.firings now →
        before.machine.step = (before.machine, .error fault) ∧
          let paused := (before.fire now .cycle).1
          paused.machine = before.machine ∧
            paused.phase = .paused ∧ paused.published = .paused ∧
            paused.cycle.next = none ∧ paused.timer.next = none := by
  intro halted after
  have stuck : halted.console.machine.Stuck fault :=
    stuck_run settings source history failed
  have atFirst :
      (∀ deed ∈ ([] : List Deed), deed.loads = false) →
        halted.Halted halted := fun _ => .refl halted
  have same : halted.Halted after :=
    (kept_halted stuck).run atFirst later (fun _ _ => trivial) unloaded
  refine ⟨same.machine, same.frames, ?_⟩
  intro now before found
  obtain ⟨isDue, stuckBefore⟩ :=
    Console.stuck_of_mem_firings (same.machine.stuck stuck) found
  refine ⟨stuckBefore, ?_⟩
  intro paused
  have isPaused : paused = (before.suspendClocks.enter .paused).1 :=
    Console.fireCycle_of_stuck stuckBefore now
  have running : before.phase = .running :=
    Console.running_of_firing? isDue
  have notPaused : before.suspendClocks.phase ≠ .paused := by
    change before.phase ≠ .paused
    rw [running]
    decide
  rw [isPaused, Console.enter, if_neg notPaused]
  exact ⟨rfl, rfl, rfl, rfl, rfl⟩

/-- A program draws and then returns without having been called.  Instructions are
rarer here than counts of the timers, so the timers count between resuming and the
next failure. -/
theorem fault_persists_resumed :
    let settings : Settings := { cycleRate := 30 }
    let idle := start (Console.idle settings settings.source)
    let history : List (Nat × Event) :=
      [(0, .request (.restart (some [0xD0, 0x05, 0x00, 0xEE]))),
        (70000000, .catchUp)]
    let later : List (Nat × Event) :=
      [(71000000, .request (.key 3 true)), (72000000, .request .resume),
        (72000000, .sample true), (106000000, .catchUp),
        (107000000, .request .resume)]
    let fault := Fault.stackUnderflow 0x202
    let halted := idle.run history
    let after := halted.run later
    (idle.deeds history).getLast? = some (.failed fault) ∧
      halted.deeds later =
        [.showed halted.console.machine.state.screen, .counted false,
          .counted false, .failed fault] ∧
      after.console.phase = .running ∧
      after.console.machine.state.keypad ≠
        halted.console.machine.state.keypad ∧
      halted.console.machine.SameProgress after.console.machine ∧
      ∀ now before, (before, .cycle) ∈ after.console.firings now →
        before.machine.step = (before.machine, .error fault) := by
  intro settings idle history later fault halted after
  obtain ⟨failed, done, running, moved⟩ :
      (idle.deeds history).getLast? = some (.failed fault) ∧
        halted.deeds later =
          [.showed halted.console.machine.state.screen, .counted false,
            .counted false, .failed fault] ∧
        after.console.phase = .running ∧
        after.console.machine.state.keypad ≠
          halted.console.machine.state.keypad := by
    decide +kernel
  have unloaded : ∀ deed ∈ halted.deeds later, deed.loads = false := by
    rw [done]
    simp [Deed.loads]
  obtain ⟨same, _, failsAgain⟩ :=
    fault_persists settings settings.source history fault failed later
      unloaded
  refine ⟨failed, done, running, moved, same, ?_⟩
  exact fun now before found => (failsAgain now before found).1

end Transcript

end ChipEight
