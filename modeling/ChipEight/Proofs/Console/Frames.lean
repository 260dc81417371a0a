import ChipEight.Proofs.Console.Deeds
import ChipEight.Proofs.Screen.Texture
import ChipEight.Proofs.State.Safety

/-!
# Frames as textures

The cells of a screen can hold any byte, and a frame that held other bytes than `0` and `1`
could not be converted to a texture.  None ever does.  The screen of a console is binary when
a program is loaded and after every instruction; the frame that waits is a copy of it, and
so is every frame that was handed on.  `ShowsBits` says this of all three places at once,
and every event keeps it.
-/

namespace ChipEight

theorem State.isBinary_step
    {state : State} (binary : state.screen.IsBinary) (chance : UInt8) :
    (state.step chance).1.screen.IsBinary := by
  rcases state.step_cases chance with
    ⟨flow, after, executed, outcome⟩ | ⟨fault, _, outcome⟩
  · rw [outcome]
    have ready :
        ({ state with redraw := false } : State).screen.IsBinary := binary
    have reached : after.screen.IsBinary := isBinary_execute ready executed
    exact reached
  · rw [outcome]
    exact binary

theorem Machine.isBinary_step
    {machine : Machine} (binary : machine.state.screen.IsBinary) :
    machine.step.1.state.screen.IsBinary := by
  rw [machine.step_eq.1]
  exact State.isBinary_step binary _

namespace Transcript

/-- Whether only bits are on the screen, in the frame that waits, and in the frames that
were handed on. -/
structure ShowsBits (transcript : Transcript) : Prop where
  screen : transcript.console.machine.state.screen.IsBinary
  pending : ∀ frame, transcript.console.pending = some frame →
    frame.IsBinary
  frames : ∀ frame ∈ transcript.frames, frame.IsBinary

variable {transcript : Transcript}

theorem showsBits_idle (settings : Settings) (source : KeyStream) :
    (start (Console.idle settings source)).ShowsBits where
  screen := Screen.isBinary_blank
  pending := nofun
  frames := nofun

theorem ShowsBits.request
    (shows : transcript.ShowsBits) (now : Nat) (request : Request) :
    (transcript.record
      (transcript.console.handle now request)).ShowsBits := by
  rcases transcript.console.handle_cases now request with
    ⟨_, sameProgress, samePending⟩ | ⟨program, _, reset, nonePending⟩
  · refine ⟨?screen, fun frame isPending => ?pending, shows.frames⟩
    case screen =>
      simp only [record, sameProgress.screen_eq]
      exact shows.screen
    case pending => exact shows.pending frame (samePending ▸ isPending)
  · refine ⟨?screen, fun frame isPending => ?pending, shows.frames⟩
    case screen =>
      simp only [record, reset]
      exact Screen.isBinary_blank
    case pending =>
      simp only [record, nonePending] at isPending
      cases isPending

theorem ShowsBits.fireCycle (shows : transcript.ShowsBits) (now : Nat) :
    (transcript.record (transcript.console.fireCycle now)).ShowsBits := by
  have binary := Machine.isBinary_step shows.screen
  rcases stepped : transcript.console.machine.step with
    ⟨machine, fault | executed⟩
  · rw [stepped] at binary
    refine ⟨?screen, fun frame isPending => ?pending, shows.frames⟩
    case screen =>
      simp only [record, Console.fireCycle, stepped, Console.machine_enter]
      exact binary
    case pending =>
      simp only [record, Console.fireCycle, stepped,
        Console.pending_enter] at isPending
      exact shows.pending frame isPending
  · rw [stepped] at binary
    refine ⟨?screen, fun frame isPending => ?pending, shows.frames⟩
    case screen =>
      simp only [record, Console.fireCycle, stepped]
      exact binary
    case pending =>
      simp only [record, Console.fireCycle, stepped] at isPending
      by_cases redrawn : machine.state.redraw = true
      · rw [if_pos redrawn, Option.some.injEq] at isPending
        exact isPending ▸ binary
      · rw [if_neg redrawn] at isPending
        exact shows.pending frame isPending

theorem ShowsBits.fire
    (shows : transcript.ShowsBits) (now : Nat) (firing : Firing) :
    (transcript.record (transcript.console.fire now firing)).ShowsBits := by
  cases firing with
  | cycle => exact shows.fireCycle now
  | timer =>
      have sameScreen :=
        (Machine.sameProgress_tick transcript.console.machine).screen_eq
      refine ⟨?_, shows.pending, shows.frames⟩
      simp only [record, Console.fire, Console.fireTimer, sameScreen]
      exact shows.screen

theorem ShowsBits.sample
    (shows : transcript.ShowsBits) (listening : Bool) :
    (transcript.sampled listening).ShowsBits := by
  by_cases running : transcript.console.published = .running
  · refine ⟨?screen, ?pending, ?frames⟩
    case screen =>
      simp only [sampled, Console.machine_sample]
      exact shows.screen
    case pending =>
      simp only [sampled, Console.sample, if_pos running]
      intro frame isPending
      cases isPending
    case frames =>
      simp only [sampled, Console.sample, if_pos running]
      refine List.forall_mem_append.mpr ⟨shows.frames, ?_⟩
      intro frame member
      cases listening with
      | true => exact shows.pending frame (Option.mem_toList.mp member)
      | false => cases member
  · simp only [sampled, Console.sample, if_neg running, Option.toList_none,
      List.append_nil]
    exact shows

theorem showsBits_run
    (settings : Settings) (source : KeyStream)
    (history : List (Nat × Event)) :
    ((start (Console.idle settings source)).run history).ShowsBits := by
  refine run_keeps ShowsBits ?_ ?_ ?_ (showsBits_idle settings source)
    history
  · exact fun _ now request shows => shows.request now request
  · exact fun _ now firing _ shows => shows.fire now firing
  · exact fun _ listening shows => shows.sample listening

/-- Take any console that started out idle, with any settings and random source, and went
through any history.  Every frame that it handed on can be converted to a texture without
a product that is no byte, and the texture has white pixels where the frame is lit, black
ones elsewhere, and three bright bytes for each pixel that the summary counts. -/
theorem frames_textured
    (settings : Settings) (source : KeyStream)
    (history : List (Nat × Event)) :
    ∀ frame ∈ ((start (Console.idle settings source)).run history).frames,
      frame.Textured :=
  fun frame member =>
    ((showsBits_run settings source history).frames frame member).textured

/-- A program draws the glyph of zero at the top left, draws it again a column further on,
and thereby erases some of it. -/
theorem frames_textured_overdrawn :
    let settings : Settings := {}
    let history : List (Nat × Event) :=
      [(0, .request (.restart
          (some [0xD0, 0x05, 0x61, 0x01, 0xD1, 0x05, 0x12, 0x06]))),
        (2000000, .catchUp), (2000000, .sample true),
        (6000000, .catchUp), (6000000, .sample true)]
    let frames :=
      ((start (Console.idle settings settings.source)).run history).frames
    ∃ first second,
      frames = [first, second] ∧ first.Textured ∧ second.Textured ∧
        first.texture.count 255 = 42 ∧ second.texture.count 255 = 48 ∧
        first.texture[3 * (64 * 4 + 1) + 2]? = some 255 ∧
        second.texture[3 * (64 * 4 + 1) + 2]? = some 0 := by
  intro settings history frames
  have measured :
      frames.map
          (fun frame =>
            (frame.texture.count 255,
              frame.texture[3 * (64 * 4 + 1) + 2]?)) =
        [(42, some 255), (48, some 0)] := by
    decide +kernel
  obtain ⟨first, rest, areFrames, isFirst, measuredRest⟩ :=
    List.map_eq_cons_iff.mp measured
  obtain ⟨second, others, rfl, isSecond, noOthers⟩ :=
    List.map_eq_cons_iff.mp measuredRest
  obtain rfl := List.map_eq_nil_iff.mp noOthers
  have textured : ∀ frame ∈ frames, frame.Textured :=
    frames_textured settings settings.source history
  rw [areFrames] at textured
  have firstTextured := textured first (by simp)
  have secondTextured := textured second (by simp)
  rw [Prod.mk.injEq] at isFirst isSecond
  exact ⟨first, second, areFrames, firstTextured, secondTextured,
    isFirst.1, isSecond.1, isFirst.2, isSecond.2⟩

end Transcript

end ChipEight
