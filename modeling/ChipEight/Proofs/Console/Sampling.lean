import ChipEight.Proofs.Console.Deeds
import Mathlib.Data.List.Induction

/-!
# What samples show

A frame waits in a console from the instruction that drew it until a sample hands it
on or a program is loaded.  `Depicts` relates what waits, what is on the screen and
what was handed on to the deeds of a history, and every operation keeps it.

`sample_law` reads off when a sample hands a frame on, and which.
`lastFrame_eq_screen_iff` reads off when the last frame that was handed on is still
what the screen shows.  It need not be: loading a program clears the screen and
leaves nothing to hand on, so the picture of the program before it is the last frame
until the new program draws something.
-/

namespace ChipEight

namespace Deed

def drew (frame : Screen) : Deed → Bool
  | .executed instruction screen =>
      instruction.usesScreen && decide (screen = frame)
  | _ => false

/-- Whether a frame that waited no longer does. -/
def settles (deed : Deed) : Bool :=
  deed.loads || deed.shows

/-- Whether a frame waits, or no longer does. -/
def touches (deed : Deed) : Bool :=
  deed.draws || deed.settles

/-- A frame was drawn, and nothing was drawn, handed on or loaded after it. -/
def Awaits (frame : Screen) (deeds : List Deed) : Prop :=
  Since (drew frame) touches deeds

variable {frame screen : Screen} {deeds : List Deed} {latest : Deed}

theorem awaits_concat_drawn
    {instruction : Instruction} (used : instruction.usesScreen = true) :
    Awaits frame (deeds ++ [.executed instruction screen]) ↔
      screen = frame := by
  have isTouch : touches (.executed instruction screen) = true := by
    simp only [touches, draws, used, Bool.true_or]
  rw [Awaits, since_concat_iff, isTouch]
  simp only [drew, used, Bool.true_and, decide_eq_true_eq, Bool.true_eq_false,
    and_false, or_false]

theorem awaits_concat_of_not_draws (undrawn : latest.draws = false) :
    Awaits frame (deeds ++ [latest]) ↔
      Awaits frame deeds ∧ latest.settles = false := by
  have notDrew : latest.drew frame = false := by
    cases latest with
    | executed instruction screen =>
        have unused : instruction.usesScreen = false := undrawn
        simp only [drew, unused, Bool.false_and]
    | _ => rfl
  rw [Awaits, since_concat_iff, notDrew, touches, undrawn, Bool.false_or]
  simp only [Bool.false_eq_true, false_or, Awaits]

theorem not_awaits_concat_of_settles (settled : latest.settles = true) :
    ¬ Awaits frame (deeds ++ [latest]) := by
  have undrawn : latest.draws = false := by
    cases latest with
    | executed instruction screen => cases settled
    | _ => rfl
  rw [awaits_concat_of_not_draws undrawn, settled]
  rintro ⟨_, unsettled⟩
  cases unsettled

/-- Some frame waits exactly if something was drawn and not handed on or replaced by
a program since. -/
theorem since_draws_iff :
    Since draws settles deeds ↔ ∃ frame, Awaits frame deeds := by
  induction deeds using List.reverseRecOn with
  | nil =>
      simp only [Awaits, not_since_nil, exists_false]
  | append_singleton deeds latest inductionHypothesis =>
      rw [since_concat_iff, inductionHypothesis]
      by_cases drawn : latest.draws = true
      · cases latest with
        | executed instruction screen =>
            have used : instruction.usesScreen = true := drawn
            simp only [drawn, true_or, awaits_concat_drawn used,
              exists_eq']
        | _ => cases drawn
      · have undrawn := eq_false_of_ne_true drawn
        simp only [undrawn, Bool.false_eq_true, false_or,
          awaits_concat_of_not_draws undrawn, exists_and_right]

end Deed

namespace Transcript

/-- What waits, what is on the screen and what was handed on agree with what was
done. -/
structure Depicts (transcript : Transcript) (done : List Deed) : Prop where
  pending : ∀ frame,
    transcript.console.pending = some frame ↔ Deed.Awaits frame done
  current : ∀ frame, Deed.Awaits frame done →
    frame = transcript.console.machine.state.screen
  shown : transcript.console.pending = none →
    Deed.Since Deed.shows Deed.loads done →
      transcript.frames.getLast? =
        some transcript.console.machine.state.screen
  unshown : transcript.console.pending = none →
    ¬ Deed.Since Deed.shows Deed.loads done →
      transcript.console.machine.state.screen = Screen.blank
  drawn : ∀ earlier frame later,
    done = earlier ++ .showed frame :: later →
      Deed.Awaits frame earlier
  frames : transcript.frames = done.filterMap Deed.frame?

variable {transcript after : Transcript} {done : List Deed}
  {latest : Deed}

theorem Depicts.drawn_concat
    (depicts : transcript.Depicts done)
    (isWaiting : ∀ frame, latest = .showed frame → Deed.Awaits frame done)
    (earlier : List Deed) (frame : Screen) (later : List Deed)
    (shape : done ++ [latest] = earlier ++ .showed frame :: later) :
    Deed.Awaits frame earlier := by
  rcases Deed.split_concat shape with
    ⟨sameDone, isLatest, _⟩ | ⟨between, sameDone, _⟩
  · exact sameDone ▸ isWaiting frame isLatest
  · exact depicts.drawn earlier frame between sameDone

theorem Depicts.frames_concat
    (depicts : transcript.Depicts done) (noFrame : latest.frame? = none)
    (sameFrames : after.frames = transcript.frames) :
    after.frames = (done ++ [latest]).filterMap Deed.frame? := by
  rw [List.filterMap_append, List.filterMap_cons_none noFrame,
    List.filterMap_nil, List.append_nil, sameFrames]
  exact depicts.frames

theorem Depicts.congr
    (depicts : transcript.Depicts done)
    (samePending : after.console.pending = transcript.console.pending)
    (sameScreen : after.console.machine.state.screen =
      transcript.console.machine.state.screen)
    (sameFrames : after.frames = transcript.frames) :
    after.Depicts done := by
  constructor
  · rw [samePending]
    exact depicts.pending
  · rw [sameScreen]
    exact depicts.current
  · rw [samePending, sameScreen, sameFrames]
    exact depicts.shown
  · rw [samePending, sameScreen]
    exact depicts.unshown
  · exact depicts.drawn
  · rw [sameFrames]
    exact depicts.frames

theorem Depicts.untouched
    (depicts : transcript.Depicts done)
    (untouched : latest.touches = false)
    (samePending : after.console.pending = transcript.console.pending)
    (sameScreen : after.console.machine.state.screen =
      transcript.console.machine.state.screen)
    (sameFrames : after.frames = transcript.frames) :
    after.Depicts (done ++ [latest]) := by
  have same := depicts.congr samePending sameScreen sameFrames
  obtain ⟨undrawn, unsettled⟩ := Bool.or_eq_false_iff.mp untouched
  obtain ⟨unloaded, unshown⟩ := Bool.or_eq_false_iff.mp unsettled
  have sameAwaits (frame : Screen) :
      Deed.Awaits frame (done ++ [latest]) ↔ Deed.Awaits frame done := by
    rw [Deed.awaits_concat_of_not_draws undrawn]
    exact and_iff_left unsettled
  have sameShown :
      Deed.Since Deed.shows Deed.loads (done ++ [latest]) ↔
        Deed.Since Deed.shows Deed.loads done := by
    rw [Deed.since_concat_iff, unloaded, unshown]
    simp only [Bool.false_eq_true, false_or, and_true]
  have noFrame : latest.frame? = none := by
    cases latest with
    | showed frame => cases unshown
    | _ => rfl
  constructor
  · intro frame
    rw [sameAwaits]
    exact same.pending frame
  · intro frame
    rw [sameAwaits]
    exact same.current frame
  · rw [sameShown]
    exact same.shown
  · rw [sameShown]
    exact same.unshown
  · refine same.drawn_concat ?_
    rintro frame rfl
    cases unshown
  · exact depicts.frames_concat noFrame sameFrames

theorem Depicts.draw
    (depicts : transcript.Depicts done)
    {instruction : Instruction} {screen : Screen}
    (used : instruction.usesScreen = true)
    (isPending : after.console.pending = some screen)
    (isScreen : after.console.machine.state.screen = screen)
    (sameFrames : after.frames = transcript.frames) :
    after.Depicts (done ++ [.executed instruction screen]) := by
  constructor
  · intro frame
    rw [isPending, Option.some.injEq, Deed.awaits_concat_drawn used]
  · intro frame awaits
    rw [Deed.awaits_concat_drawn used] at awaits
    rw [isScreen, awaits]
  · rw [isPending]
    exact nofun
  · rw [isPending]
    exact nofun
  · exact depicts.drawn_concat nofun
  · exact depicts.frames_concat rfl sameFrames

theorem Depicts.load
    (depicts : transcript.Depicts done) {program : List UInt8}
    (nonePending : after.console.pending = none)
    (isBlank : after.console.machine.state.screen = Screen.blank)
    (sameFrames : after.frames = transcript.frames) :
    after.Depicts (done ++ [.loaded program]) := by
  have noneAwaits (frame : Screen) :
      ¬ Deed.Awaits frame (done ++ [.loaded program]) :=
    Deed.not_awaits_concat_of_settles rfl
  constructor
  · intro frame
    rw [nonePending]
    exact iff_of_false nofun (noneAwaits frame)
  · exact fun frame awaits => absurd awaits (noneAwaits frame)
  · intro _ isShown
    rcases Deed.since_concat_iff.mp isShown with isShow | ⟨_, unloaded⟩
    · cases isShow
    · cases unloaded
  · exact fun _ _ => isBlank
  · exact depicts.drawn_concat nofun
  · exact depicts.frames_concat rfl sameFrames

theorem Depicts.show
    (depicts : transcript.Depicts done) {frame : Screen}
    (wasPending : transcript.console.pending = some frame)
    (nonePending : after.console.pending = none)
    (sameScreen : after.console.machine.state.screen =
      transcript.console.machine.state.screen)
    (oneFrame : after.frames = transcript.frames ++ [frame]) :
    after.Depicts (done ++ [.showed frame]) := by
  have wasWaiting := (depicts.pending frame).mp wasPending
  have noneAwaits (other : Screen) :
      ¬ Deed.Awaits other (done ++ [.showed frame]) :=
    Deed.not_awaits_concat_of_settles rfl
  constructor
  · intro other
    rw [nonePending]
    exact iff_of_false nofun (noneAwaits other)
  · exact fun other awaits => absurd awaits (noneAwaits other)
  · intro _ _
    rw [oneFrame, List.getLast?_concat, sameScreen,
      ← depicts.current frame wasWaiting]
  · intro _ notShown
    exact absurd (Deed.since_concat_iff.mpr (Or.inl rfl)) notShown
  · refine depicts.drawn_concat ?_
    rintro other ⟨rfl⟩
    exact wasWaiting
  · rw [List.filterMap_append, oneFrame, depicts.frames]
    rfl

theorem Depicts.request
    (depicts : transcript.Depicts done) (now : Nat) (request : Request) :
    (transcript.record (transcript.console.handle now request)).Depicts
      (done ++ transcript.console.deeds now (.request request)) := by
  rcases transcript.console.handle_cases now request with
    ⟨nothing, sameProgress, samePending⟩ |
      ⟨program, loaded, reset, nonePending⟩
  · rw [nothing, List.append_nil]
    exact depicts.congr samePending sameProgress.screen_eq rfl
  · rw [loaded]
    refine depicts.load nonePending ?_ rfl
    simp only [record, reset]
    rfl

theorem Depicts.fireCycle
    (depicts : transcript.Depicts done) (now : Nat) :
    (transcript.record (transcript.console.fireCycle now)).Depicts
      (done ++ [transcript.console.deed .cycle]) := by
  rcases stepped : transcript.console.machine.step with
    ⟨machine, fault | executed⟩
  · obtain ⟨_, rfl⟩ := (Machine.step_eq_error_iff _ _ _).mp stepped
    simp only [Console.deed, Console.fireCycle, stepped]
    exact depicts.untouched rfl (Console.pending_enter _ _)
      (by simp only [record, Console.machine_enter]; rfl) rfl
  · obtain ⟨_, redrawn, sameScreen⟩ := Machine.step_ok stepped
    simp only [Console.deed, Console.fireCycle, stepped]
    by_cases used : executed.usesScreen = true
    · rw [used] at redrawn
      exact depicts.draw used (if_pos redrawn) rfl rfl
    · have unused := eq_false_of_ne_true used
      have unmarked : ¬ machine.state.redraw = true := by
        rw [redrawn]
        exact used
      refine depicts.untouched ?_ (if_neg unmarked)
        (sameScreen unused) rfl
      simp only [Deed.touches, Deed.draws, unused]
      rfl

theorem Depicts.fire
    (depicts : transcript.Depicts done) (now : Nat) (firing : Firing) :
    (transcript.record (transcript.console.fire now firing)).Depicts
      (done ++ [transcript.console.deed firing]) := by
  cases firing with
  | cycle => exact depicts.fireCycle now
  | timer =>
      have sameProgress :=
        Machine.sameProgress_tick transcript.console.machine
      exact depicts.untouched rfl rfl sameProgress.screen_eq rfl

theorem Depicts.sample
    (depicts : transcript.Depicts done) (now : Nat) :
    (transcript.sampled true).Depicts
      (done ++ transcript.console.deeds now (.sample true)) := by
  by_cases running : transcript.console.published = .running
  · cases waiting : transcript.console.pending with
    | none =>
        simp only [Console.deeds, Console.sample, if_pos running, if_true,
          waiting, Option.toList_none, List.map_nil, List.append_nil]
        refine depicts.congr ?_ ?_ ?_ <;>
          simp only [sampled, Console.sample, if_pos running, if_true,
            waiting, Option.toList_none, List.append_nil]
    | some frame =>
        simp only [Console.deeds, Console.sample, if_pos running, if_true,
          waiting, Option.toList_some, List.map_singleton]
        refine depicts.show waiting ?_ ?_ ?_ <;>
          simp only [sampled, Console.sample, if_pos running, if_true,
            waiting, Option.toList_some]
  · simp only [Console.deeds, Console.sample, if_neg running,
      Option.toList_none, List.map_nil, List.append_nil]
    refine depicts.congr ?_ ?_ ?_ <;>
      simp only [sampled, Console.sample, if_neg running,
        Option.toList_none, List.append_nil]

theorem kept_depicts : Kept (· ≠ .sample false) Depicts where
  requested _ _ now request _ depicts := depicts.request now request
  fired _ _ now firing _ depicts := depicts.fire now firing
  sampled transcript done now listening heard depicts := by
    cases listening with
    | true => exact depicts.sample now
    | false => exact absurd rfl heard

theorem depicts_idle (settings : Settings) (source : KeyStream) :
    (start (Console.idle settings source)).Depicts [] where
  pending _ := iff_of_false nofun Deed.not_since_nil
  current _ awaits := absurd awaits Deed.not_since_nil
  shown _ isShown := absurd isShown Deed.not_since_nil
  unshown _ _ := rfl
  drawn earlier frame later shape := by simp at shape
  frames := rfl

theorem depicts_run
    (settings : Settings) (source : KeyStream)
    {history : List (Nat × Event)}
    (heard : ∀ entry ∈ history, entry.2 ≠ .sample false) :
    ((start (Console.idle settings source)).run history).Depicts
      ((start (Console.idle settings source)).deeds history) :=
  kept_depicts.run (depicts_idle settings source) history heard

/-! ## Single samples -/

theorem frames_sampled_of_running
    (running : transcript.console.published = .running) :
    (transcript.sampled true).frames =
      transcript.frames ++ transcript.console.pending.toList := by
  simp only [sampled, Console.sample, if_pos running, if_true]

theorem pending_sampled_of_running
    (running : transcript.console.published = .running) :
    (transcript.sampled true).console.pending = none := by
  simp only [sampled, Console.sample, if_pos running]

theorem sampled_of_ne_running
    (standing : transcript.console.published ≠ .running) :
    transcript.sampled true = transcript := by
  simp only [sampled, Console.sample, if_neg standing, Option.toList_none,
    List.append_nil]

/-- Take any console that started out idle, with any settings and random source, and
went through any history in which every sample had somebody to receive the frame.  A
sample hands a frame on exactly if the console runs and something was drawn since a
frame was last handed on or a program last loaded.  It is one frame then, and what
the screen shows.  While the console does not run a sample changes nothing, and what
waits goes on waiting.  Every frame that was handed on is what the latest instruction
to draw had left, with no program loaded and no other frame handed on between the
two; so none was drawn by an earlier program. -/
theorem sample_law
    (settings : Settings) (source : KeyStream)
    (history : List (Nat × Event))
    (heard : ∀ entry ∈ history, entry.2 ≠ .sample false) (now : Nat) :
    let idle := start (Console.idle settings source)
    let transcript := idle.run history
    let deeds := idle.deeds history
    let console := transcript.console
    let sampled := transcript.next now (.sample true)
    (console.phase = .running ∧ Deed.Since Deed.draws Deed.settles deeds →
        sampled.frames =
          transcript.frames ++ [console.machine.state.screen]) ∧
      (¬ (console.phase = .running ∧
          Deed.Since Deed.draws Deed.settles deeds) →
        sampled.frames = transcript.frames) ∧
      (console.phase ≠ .running → sampled = transcript) ∧
      transcript.frames = deeds.filterMap Deed.frame? ∧
      ∀ earlier frame later,
        deeds = earlier ++ .showed frame :: later →
          ∃ before instruction between,
            earlier = before ++ .executed instruction frame :: between ∧
              instruction.usesScreen = true ∧
              ∀ deed ∈ between,
                deed.draws = false ∧ deed.loads = false ∧
                  deed.shows = false := by
  intro idle transcript deeds console sampled
  have depicts : transcript.Depicts deeds :=
    depicts_run settings source heard
  have published : console.published = console.phase :=
    (coherent_run settings source history).published
  refine ⟨?_, ?_, ?_, depicts.frames, ?_⟩
  · rintro ⟨running, drawn⟩
    obtain ⟨frame, awaits⟩ := Deed.since_draws_iff.mp drawn
    have waiting : console.pending = some frame :=
      (depicts.pending frame).mpr awaits
    have handedOn : sampled.frames = transcript.frames ++ [frame] := by
      have taken :=
        frames_sampled_of_running (published.trans running)
      rw [waiting] at taken
      exact taken
    rw [handedOn, depicts.current frame awaits]
  · intro idleSample
    -- Whatever waited would have been drawn, and the sample not idle.
    by_cases running : console.phase = .running
    · have nothingWaits : console.pending = none := by
        rw [Option.eq_none_iff_forall_not_mem]
        intro frame waiting
        have awaits := (depicts.pending frame).mp waiting
        exact idleSample
          ⟨running, Deed.since_draws_iff.mpr ⟨frame, awaits⟩⟩
      have taken :=
        frames_sampled_of_running (published.trans running)
      rw [nothingWaits, Option.toList_none, List.append_nil] at taken
      exact taken
    · have unchanged := sampled_of_ne_running (published ▸ running)
      exact congrArg Transcript.frames unchanged
  · intro standing
    exact sampled_of_ne_running (published ▸ standing)
  · intro earlier frame later shape
    obtain ⟨before, deed, between, sameEarlier, drew, none⟩ :=
      depicts.drawn earlier frame later shape
    cases deed with
    | executed instruction screen =>
        obtain ⟨used, sameFrame⟩ := Bool.and_eq_true_iff.mp drew
        have isFrame : screen = frame := of_decide_eq_true sameFrame
        refine ⟨before, instruction, between, isFrame ▸ sameEarlier, used,
          ?_⟩
        intro deed member
        have untouched := none deed member
        obtain ⟨undrawn, unsettled⟩ := Bool.or_eq_false_iff.mp untouched
        exact ⟨undrawn, Bool.or_eq_false_iff.mp unsettled⟩
    | _ => cases drew

/-- A program of one instruction, which draws, has its frame handed on only after
the console was resumed. -/
theorem sample_law_resumed :
    let settings : Settings := {}
    let idle := start (Console.idle settings settings.source)
    let history : List (Nat × Event) :=
      [(0, .request (.restart (some [0xD0, 0x05]))), (2000000, .catchUp),
        (2000000, .request .pause), (2000000, .sample true),
        (3000000, .request .resume)]
    let transcript := idle.run history
    let screen := transcript.console.machine.state.screen
    (∀ entry ∈ history, entry.2 ≠ .sample false) ∧
      idle.deeds history =
        [.loaded [0xD0, 0x05], .executed (.draw 0 0 5) screen] ∧
      transcript.frames = [] ∧
      (transcript.next 3000000 (.sample true)).frames = [screen] := by
  intro settings idle history transcript screen
  have heard : ∀ entry ∈ history, entry.2 ≠ .sample false := by
    simp [history]
  obtain ⟨running, noFrames, done⟩ :
      transcript.console.phase = .running ∧ transcript.frames = [] ∧
        idle.deeds history =
          [.loaded [0xD0, 0x05], .executed (.draw 0 0 5) screen] := by
    decide +kernel
  have drawn :
      Deed.Since Deed.draws Deed.settles (idle.deeds history) :=
    ⟨[.loaded [0xD0, 0x05]], .executed (.draw 0 0 5) screen, [], done, rfl,
      by simp⟩
  have handedOn :=
    (sample_law settings settings.source history heard 3000000).1
      ⟨running, drawn⟩
  refine ⟨heard, done, noFrames, handedOn.trans ?_⟩
  exact congrArg (· ++ [screen]) noFrames

/-! ## The last frame -/

/-- The last frame that was handed on; a dark one if none was. -/
def lastFrame (transcript : Transcript) : Screen :=
  transcript.frames.getLast?.getD Screen.blank

/-- Take any console that started out idle, with any settings and random source, and
went through any history in which every sample had somebody to receive the frame.
Once it has been sampled while running, the last frame that was handed on is what the
screen shows exactly if some frame was handed on since a program was last loaded, or
if that last frame is dark. -/
theorem lastFrame_eq_screen_iff
    (settings : Settings) (source : KeyStream)
    (history : List (Nat × Event))
    (heard : ∀ entry ∈ history, entry.2 ≠ .sample false)
    (running :
      ((start (Console.idle settings source)).run
        history).console.phase = .running)
    (now : Nat) :
    let idle := start (Console.idle settings source)
    let sampled := idle.run (history ++ [(now, .sample true)])
    let deeds := idle.deeds (history ++ [(now, .sample true)])
    sampled.lastFrame = sampled.console.machine.state.screen ↔
      Deed.Since Deed.shows Deed.loads deeds ∨
        sampled.lastFrame = Screen.blank := by
  intro idle sampled deeds
  have allHeard :
      ∀ entry ∈ history ++ [(now, .sample true)],
        entry.2 ≠ .sample false := by
    refine List.forall_mem_append.mpr ⟨heard, ?_⟩
    simp
  have depicts : sampled.Depicts deeds :=
    depicts_run settings source allHeard
  have nothingWaits : sampled.console.pending = none := by
    have published :=
      (coherent_run settings source history).published
    have isSampled : sampled = (idle.run history).sampled true :=
      idle.run_append history [(now, .sample true)]
    rw [isSampled]
    exact pending_sampled_of_running (published.trans running)
  by_cases isShown : Deed.Since Deed.shows Deed.loads deeds
  · have isScreen := depicts.shown nothingWaits isShown
    refine iff_of_true ?_ (Or.inl isShown)
    rw [lastFrame, isScreen, Option.getD_some]
  · have isBlank := depicts.unshown nothingWaits isShown
    rw [isBlank, or_iff_right isShown]

/-- The frame of a program that draws is handed on and is on the screen. -/
theorem lastFrame_eq_screen_iff_drawn :
    let settings : Settings := {}
    let idle := start (Console.idle settings settings.source)
    let history : List (Nat × Event) :=
      [(0, .request (.restart (some [0xD0, 0x05, 0x12, 0x02]))),
        (2000000, .catchUp)]
    let sampled := idle.run (history ++ [(2000000, .sample true)])
    (∀ entry ∈ history, entry.2 ≠ .sample false) ∧
      (idle.run history).console.phase = .running ∧
      sampled.lastFrame ≠ Screen.blank ∧
      sampled.lastFrame = sampled.console.machine.state.screen := by
  intro settings idle history sampled
  have heard : ∀ entry ∈ history, entry.2 ≠ .sample false := by
    simp [history]
  obtain ⟨running, lit, done⟩ :
      (idle.run history).console.phase = .running ∧
        sampled.lastFrame ≠ Screen.blank ∧
        idle.deeds (history ++ [(2000000, .sample true)]) =
          [.loaded [0xD0, 0x05, 0x12, 0x02],
            .executed (.draw 0 0 5) sampled.lastFrame,
            .showed sampled.lastFrame] := by
    decide +kernel
  have isShown :
      Deed.Since Deed.shows Deed.loads
        (idle.deeds (history ++ [(2000000, .sample true)])) :=
    ⟨[.loaded [0xD0, 0x05, 0x12, 0x02],
        .executed (.draw 0 0 5) sampled.lastFrame],
      .showed sampled.lastFrame, [], done, rfl, by simp⟩
  refine ⟨heard, running, lit, ?_⟩
  exact (lastFrame_eq_screen_iff settings settings.source history heard
    running 2000000).mpr (Or.inl isShown)

/-- Once the frame of that program was handed on and another program is loaded, a
sample finds a dark screen and hands nothing on. -/
theorem lastFrame_ne_screen_reloaded :
    let settings : Settings := {}
    let idle := start (Console.idle settings settings.source)
    let history : List (Nat × Event) :=
      [(0, .request (.restart (some [0xD0, 0x05, 0x12, 0x02]))),
        (2000000, .catchUp), (2000000, .sample true),
        (2000000, .request (.restart (some [0x12, 0x00])))]
    let sampled := idle.run (history ++ [(2000000, .sample true)])
    (∀ entry ∈ history, entry.2 ≠ .sample false) ∧
      (idle.run history).console.phase = .running ∧
      sampled.frames = (idle.run history).frames ∧
      sampled.console.machine.state.screen = Screen.blank ∧
      sampled.lastFrame ≠ sampled.console.machine.state.screen := by
  decide +kernel

end Transcript

end ChipEight
