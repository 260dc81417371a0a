import ChipEight.Proofs.Console.Phases
import ChipEight.Proofs.State.Faults

/-!
# Deeds

A transcript tells what a console has become and what it has sent, but not what was
done on the way.  Deeds do: every program that was loaded, every instruction that
was executed or failed, every countdown of the timers and every frame that somebody
received, in order.  They are read off the run itself.  Catching up contributes one
deed for each of its firings, and `Console.firings` lists these together with the
console that each of them found.

`Transcript.Kept.run` is the induction that goes with it: what requests, firings and
samples keep of a transcript and its deeds holds after every history.
-/

namespace ChipEight

/-- One thing that a console has done. -/
inductive Deed where
  | loaded (program : List UInt8)
  /-- An instruction was executed; it left a screen. -/
  | executed (instruction : Instruction) (screen : Screen)
  | failed (fault : Fault)
  /-- The timers were counted down, and the sound may have ended. -/
  | counted (expired : Bool)
  | showed (frame : Screen)
  deriving DecidableEq, Repr

namespace Deed

def loads : Deed → Bool
  | .loaded _ => true
  | _ => false

/-- Whether an instruction that works on the screen was executed. -/
def draws : Deed → Bool
  | .executed instruction _ => instruction.usesScreen
  | _ => false

def shows : Deed → Bool
  | .showed _ => true
  | _ => false

def frame? : Deed → Option Screen
  | .showed frame => some frame
  | _ => none

/-- Some deed of one kind was done, and none of another kind after it. -/
def Since (kind other : Deed → Bool) (deeds : List Deed) : Prop :=
  ∃ earlier deed later,
    deeds = earlier ++ deed :: later ∧ kind deed = true ∧
      ∀ next ∈ later, other next = false

variable {kind other : Deed → Bool} {deeds : List Deed} {latest : Deed}

theorem split_concat
    {earlier later : List Deed} {deed : Deed}
    (shape : deeds ++ [latest] = earlier ++ deed :: later) :
    (deeds = earlier ∧ latest = deed ∧ later = []) ∨
      ∃ between,
        deeds = earlier ++ deed :: between ∧ later = between ++ [latest] := by
  rcases List.eq_nil_or_concat later with rfl | ⟨between, last, rfl⟩
  · obtain ⟨sameDeeds, sameLatest⟩ := List.append_inj' shape rfl
    exact Or.inl ⟨sameDeeds, List.singleton_inj.mp sameLatest, rfl⟩
  · rw [List.concat_eq_append, ← List.cons_append,
      ← List.append_assoc] at shape
    obtain ⟨sameDeeds, sameLatest⟩ := List.append_inj' shape rfl
    refine Or.inr ⟨between, sameDeeds, ?_⟩
    rw [List.concat_eq_append, sameLatest]

theorem not_since_nil : ¬ Since kind other [] := by
  rintro ⟨earlier, deed, later, shape, _⟩
  simp at shape

theorem since_concat_iff :
    Since kind other (deeds ++ [latest]) ↔
      kind latest = true ∨
        Since kind other deeds ∧ other latest = false := by
  constructor
  · rintro ⟨earlier, deed, later, shape, isKind, none⟩
    rcases split_concat shape with
      ⟨_, rfl, _⟩ | ⟨between, sameDeeds, rfl⟩
    · exact Or.inl isKind
    · obtain ⟨noneBetween, notLatest⟩ := List.forall_mem_append.mp none
      exact Or.inr ⟨⟨earlier, deed, between, sameDeeds, isKind, noneBetween⟩,
        notLatest latest (List.mem_singleton_self latest)⟩
  · rintro (isKind | ⟨⟨earlier, deed, later, rfl, isKind, none⟩, notLatest⟩)
    · exact ⟨deeds, latest, [], rfl, isKind, by simp⟩
    · refine ⟨earlier, deed, later ++ [latest], by simp, isKind, ?_⟩
      refine List.forall_mem_append.mpr ⟨none, ?_⟩
      simpa using notLatest

end Deed

namespace Console

/-- The firings by which a console catches up to a moment, each with the console
that it finds. -/
def firings (now : Nat) (console : Console) : List (Console × Firing) :=
  match _found : console.firing? now with
  | none => []
  | some firing =>
      (console, firing) :: firings now (console.fire now firing).1
termination_by console.backlog now
decreasing_by exact backlog_fire_lt _found

/-- What one firing makes a console do. -/
def deed (console : Console) : Firing → Deed
  | .cycle =>
      match console.machine.step with
      | (machine, .ok instruction) =>
          .executed instruction machine.state.screen
      | (_, .error fault) => .failed fault
  | .timer => .counted console.machine.tick.2

def deeds (console : Console) (now : Nat) : Event → List Deed
  | .request (.restart program) =>
      (program.or console.program).toList.map .loaded
  | .request _ => []
  | .catchUp =>
      (console.firings now).map fun (before, firing) => before.deed firing
  | .sample listening =>
      (console.sample listening).2.toList.map .showed

variable {console : Console} {now : Nat}

/-- A request loads a program, which throws away the frame that waits, or leaves the
frame and all but the keypad alone. -/
theorem handle_cases (console : Console) (now : Nat) (request : Request) :
    (console.deeds now (.request request) = [] ∧
        console.machine.SameProgress
          (console.handle now request).1.machine ∧
        (console.handle now request).1.pending = console.pending) ∨
      ∃ program,
        console.deeds now (.request request) = [.loaded program] ∧
          (console.handle now request).1.machine =
            console.machine.reset program ∧
          (console.handle now request).1.pending = none := by
  cases request with
  | restart program =>
      cases found : program.or console.program with
      | none =>
          refine Or.inl ?_
          simp only [deeds, handle, restart, found, and_true]
          exact ⟨rfl, .refl _⟩
      | some loaded =>
          simp only [deeds, handle, restart, found, machine_enter,
            pending_enter]
          exact Or.inr ⟨loaded, rfl, rfl, rfl⟩
  | pause =>
      refine Or.inl ⟨rfl, ?_⟩
      by_cases running : console.phase = .running
      · simp only [handle, if_pos running, machine_enter, pending_enter]
        exact ⟨.refl _, rfl⟩
      · simp only [handle, if_neg running, and_true]
        exact .refl _
  | resume =>
      refine Or.inl ⟨rfl, ?_⟩
      by_cases paused : console.phase = .paused
      · simp only [handle, if_pos paused, machine_enter, pending_enter]
        exact ⟨.refl _, rfl⟩
      · simp only [handle, if_neg paused, and_true]
        exact .refl _
  | key key pressed =>
      exact Or.inl ⟨rfl, Machine.sameProgress_setKey _ key pressed, rfl⟩
  | inspect => exact Or.inl ⟨rfl, .refl _, rfl⟩
  | shutdown => exact Or.inl ⟨rfl, .refl _, rfl⟩

theorem machine_sample (console : Console) (listening : Bool) :
    (console.sample listening).1.machine = console.machine := by
  unfold sample
  split <;> rfl

theorem firings_of_some
    {firing : Firing} (found : console.firing? now = some firing) :
    console.firings now =
      (console, firing) :: (console.fire now firing).1.firings now := by
  rw [firings]
  split
  next nothing =>
    rw [nothing] at found
    cases found
  next other foundOther =>
    rw [foundOther] at found
    cases found
    rfl

theorem firings_of_none (nothing : console.firing? now = none) :
    console.firings now = [] := by
  rw [firings]
  split
  next => rfl
  next other foundOther =>
    rw [foundOther] at nothing
    cases nothing

/-- What every firing keeps holds of every console that a firing finds, and that
firing is due. -/
theorem firings_keep
    {holds : Console → Prop}
    (kept : ∀ console firing,
      console.firing? now = some firing → holds console →
        holds (console.fire now firing).1)
    (atFirst : holds console) :
    ∀ stage ∈ console.firings now,
      stage.1.firing? now = some stage.2 ∧ holds stage.1 := by
  induction console using firings.induct now with
  | case1 console nothing =>
      rw [firings_of_none nothing]
      exact fun stage member => absurd member List.not_mem_nil
  | case2 console firing found inductionHypothesis =>
      rw [firings_of_some found]
      intro stage member
      rcases List.mem_cons.mp member with rfl | later
      · exact ⟨found, atFirst⟩
      · exact inductionHypothesis (kept console firing found atFirst)
          stage later

theorem catchUpFrom_keeps_deeds
    (holds : Console → List Signal → List Deed → Prop)
    (kept : ∀ console sent done firing,
      console.firing? now = some firing → holds console sent done →
        holds (console.fire now firing).1
          (sent ++ (console.fire now firing).2)
          (done ++ [console.deed firing]))
    {sent : List Signal} {done : List Deed}
    (atFirst : holds console sent done) :
    holds (catchUpFrom now console sent).1
      (catchUpFrom now console sent).2
      (done ++ console.deeds now .catchUp) := by
  induction console using firings.induct now generalizing sent done with
  | case1 console nothing =>
      have idle : console.deeds now .catchUp = [] := by
        simp only [deeds, firings_of_none nothing, List.map_nil]
      rw [catchUpFrom_of_none nothing, idle, List.append_nil]
      exact atFirst
  | case2 console firing found inductionHypothesis =>
      have first :
          console.deeds now .catchUp =
            console.deed firing ::
              (console.fire now firing).1.deeds now .catchUp := by
        simp only [deeds, firings_of_some found, List.map_cons]
      have afterFirst :=
        inductionHypothesis (kept console sent done firing found atFirst)
      rw [catchUpFrom_of_some found, first]
      rw [List.append_assoc, List.singleton_append] at afterFirst
      exact afterFirst

end Console

namespace Transcript

/-- What is done in a history. -/
def deeds (transcript : Transcript) : List (Nat × Event) → List Deed
  | [] => []
  | (now, event) :: rest =>
      transcript.console.deeds now event ++
        (transcript.next now event).deeds rest

theorem deeds_append
    (transcript : Transcript) (earlier later : List (Nat × Event)) :
    transcript.deeds (earlier ++ later) =
      transcript.deeds earlier ++ (transcript.run earlier).deeds later := by
  induction earlier generalizing transcript with
  | nil => rfl
  | cons entry rest inductionHypothesis =>
      simp only [List.cons_append, deeds, run, inductionHypothesis,
        List.append_assoc]

/-- Whether what holds of a transcript and its deeds is kept by every request and
sample of an allowed kind, and by every firing. -/
structure Kept
    (allowed : Event → Prop)
    (holds : Transcript → List Deed → Prop) : Prop where
  requested : ∀ transcript done now request,
    allowed (.request request) → holds transcript done →
      holds (transcript.record (transcript.console.handle now request))
        (done ++ transcript.console.deeds now (.request request))
  fired : ∀ transcript done now firing,
    transcript.console.firing? now = some firing → holds transcript done →
      holds (transcript.record (transcript.console.fire now firing))
        (done ++ [transcript.console.deed firing])
  sampled : ∀ transcript done now listening,
    allowed (.sample listening) → holds transcript done →
      holds (transcript.sampled listening)
        (done ++ transcript.console.deeds now (.sample listening))

variable {allowed : Event → Prop}
  {holds : Transcript → List Deed → Prop}
  {transcript : Transcript} {done : List Deed}

theorem Kept.next
    (kept : Kept allowed holds) (atFirst : holds transcript done)
    (now : Nat) {event : Event} (isAllowed : allowed event) :
    holds (transcript.next now event)
      (done ++ transcript.console.deeds now event) := by
  cases event with
  | request request =>
      exact kept.requested transcript done now request isAllowed atFirst
  | sample listening =>
      exact kept.sampled transcript done now listening isAllowed atFirst
  | catchUp =>
      -- Of all that was sent, only the signals of this event vary.
      refine Console.catchUpFrom_keeps_deeds
        (fun console sent done =>
          holds (transcript.record (console, sent)) done)
        ?_ ?_
      · intro console sent done firing found before
        have after := kept.fired _ done now firing found before
        simp only [record, List.append_assoc] at after ⊢
        exact after
      · simp only [record, List.append_nil]
        exact atFirst

/-- What is kept holds after every history of allowed events, if it holds at
first. -/
theorem Kept.run
    (kept : Kept allowed holds) (atFirst : holds transcript done)
    (history : List (Nat × Event))
    (areAllowed : ∀ entry ∈ history, allowed entry.2) :
    holds (transcript.run history)
      (done ++ transcript.deeds history) := by
  induction history generalizing transcript done with
  | nil =>
      rw [deeds, List.append_nil]
      exact atFirst
  | cons entry rest inductionHypothesis =>
      obtain ⟨now, event⟩ := entry
      obtain ⟨isAllowed, restAllowed⟩ :=
        List.forall_mem_cons.mp areAllowed
      rw [deeds, ← List.append_assoc]
      exact inductionHypothesis (kept.next atFirst now isAllowed)
        restAllowed

end Transcript

end ChipEight
