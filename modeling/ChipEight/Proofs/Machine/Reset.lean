import ChipEight.Console
import ChipEight.Proofs.Machine.Stimuli
import ChipEight.Proofs.Memory.Stored

/-!
# What a reset leaves

A reset loads a program into a machine and throws away everything else but the random
source.  Memory then holds the font at its start, the program from the program start on, as
far as it fits, and zero in every other cell.  Both runs of bytes lie within the memory and
apart from each other, so neither wraps nor touches the other.

Nothing else of the program is kept, so two programs that agree in the bytes that fit cannot
be told apart.
-/

namespace ChipEight

namespace Memory

variable {before after : Memory} {address : UInt16} {bytes : List UInt8}
  {place : Fin memorySize}

/-- A run that ends within memory lies where its addresses say. -/
theorem cellBehind_of_fits
    {offset : Nat} (fits : address.toNat + offset < memorySize) :
    (cellBehind address offset).val = address.toNat + offset :=
  Nat.mod_eq_of_lt fits

theorem Overwritten.get_inside
    (overwritten : before.Overwritten after address bytes)
    {offset : Nat} (inRange : offset < bytes.length)
    (isPlace : place.val = address.toNat + offset) :
    after.cells.get place = bytes[offset] := by
  have fits : address.toNat + offset < memorySize := by
    rw [← isPlace]
    exact place.isLt
  have samePlace : cellBehind address offset = place :=
    Fin.ext ((cellBehind_of_fits fits).trans isPlace.symm)
  rw [← samePlace]
  exact overwritten.inside offset inRange

theorem Overwritten.get_outside
    (overwritten : before.Overwritten after address bytes)
    (fits : address.toNat + bytes.length ≤ memorySize)
    (apart : place.val < address.toNat ∨
      address.toNat + bytes.length ≤ place.val) :
    after.cells.get place = before.cells.get place := by
  apply overwritten.outside
  intro offset inRange isPlace
  have behind :
      (cellBehind address offset).val = address.toNat + offset :=
    cellBehind_of_fits (by omega)
  rw [isPlace] at behind
  omega

/-- Whether memory holds the font, a program from the program start on, as far as it fits,
and zero in every other cell. -/
structure LaidOut (memory : Memory) (program : List UInt8) : Prop where
  font : ∀ (place : Fin memorySize)
    (inFont : place.val < Font.glyphs.length),
      memory.cells.get place = Font.glyphs[place.val]
  loaded : ∀ (place : Fin memorySize) (offset : Nat)
    (inProgram : offset < program.length),
      offset < State.programCapacity →
      place.val = programStart.toNat + offset →
        memory.cells.get place = program[offset]
  rest : ∀ place : Fin memorySize,
    Font.glyphs.length ≤ place.val →
      (place.val < programStart.toNat ∨
        programStart.toNat + min program.length State.programCapacity ≤
          place.val) →
        memory.cells.get place = 0

end Memory

namespace State

theorem overwritten_fresh :
    Memory.blank.Overwritten fresh.memory 0 Font.glyphs :=
  Memory.blank.overwritten_store 0 (by decide)

theorem overwritten_ofProgram (program : List UInt8) :
    fresh.memory.Overwritten (ofProgram program).memory programStart
      (program.take programCapacity) := by
  apply Memory.overwritten_store
  rw [List.length_take]
  exact Nat.le_trans (Nat.min_le_left _ _) (Nat.sub_le _ _)

theorem laidOut_ofProgram (program : List UInt8) :
    (ofProgram program).memory.LaidOut program := by
  have fontSize : Font.glyphs.length = 80 := rfl
  have start : programStart.toNat = 512 := rfl
  have capacity : programCapacity = 3584 := rfl
  have size : memorySize = 4096 := rfl
  have overwritten := overwritten_ofProgram program
  have taken :
      (program.take programCapacity).length =
        min programCapacity program.length := List.length_take
  have programFits :
      programStart.toNat + (program.take programCapacity).length ≤
        memorySize := by omega
  have fontFits :
      (0 : UInt16).toNat + Font.glyphs.length ≤ memorySize := by decide
  refine ⟨?font, ?loaded, ?rest⟩
  case font =>
    intro place inFont
    have isPlace : place.val = (0 : UInt16).toNat + place.val :=
      (Nat.zero_add _).symm
    rw [overwritten.get_outside programFits (Or.inl (by omega))]
    exact overwritten_fresh.get_inside inFont isPlace
  case loaded =>
    intro place offset inProgram fits isPlace
    have inTaken : offset < (program.take programCapacity).length := by
      omega
    rw [overwritten.get_inside inTaken isPlace, List.getElem_take]
  case rest =>
    intro place behindFont apart
    have fromZero : (0 : UInt16).toNat + Font.glyphs.length ≤ place.val := by
      rw [UInt16.toNat_zero, Nat.zero_add]
      exact behindFont
    rw [overwritten.get_outside programFits (by omega),
      overwritten_fresh.get_outside fontFits (Or.inr fromZero)]
    exact Vector.getElem_replicate _

/-- Only the bytes that fit make a difference. -/
theorem ofProgram_congr
    {program other : List UInt8}
    (sameBytes : other.take programCapacity = program.take programCapacity) :
    ofProgram other = ofProgram program := by
  rw [ofProgram, sameBytes, ofProgram]

end State

namespace Notice

theorem truncated_mem_ofProgram_iff (program : List UInt8) (length : Nat) :
    programTruncated length ∈ ofProgram program ↔
      State.programCapacity < program.length ∧ length = program.length := by
  by_cases cutOff : State.programCapacity < program.length
  · simp [ofProgram, cutOff]
  · simp [ofProgram, cutOff]

end Notice

namespace Console

/-- A console that loads a program tells its log that it was cut off exactly if it was. -/
theorem truncated_mem_restart_iff
    {console : Console} {asked : Option (List UInt8)} {program : List UInt8}
    (found : asked.or console.program = some program) (now length : Nat) :
    Signal.noted (.programTruncated length) ∈
        (console.handle now (.restart asked)).2 ↔
      State.programCapacity < program.length ∧ length = program.length := by
  have unannounced (running : Console) :
      Signal.noted (.programTruncated length) ∉
        (running.enter .running).2 := by
    unfold enter
    split <;> simp
  rw [← Notice.truncated_mem_ofProgram_iff]
  simp [handle, restart, found, unannounced]

end Console

namespace Machine

/-- Reset any machine with any program.  The font, the program and zeros are all that is in
memory, and the rest is what it is in a fresh state; only the random source is kept.  The
warning that the program was cut off is among its notices, and in the log of a console that
loads it, exactly if it is longer than the memory behind the program start.  Any program with
the same bytes there leads to the same state, and to the same runs if the random sources are
in the same place. -/
theorem reset_lays_out (machine : Machine) (program : List UInt8) :
    let reset := machine.reset program
    let state := reset.state
    reset.source = machine.source ∧
      state.memory.LaidOut program ∧
      (Font.glyphs.length = 80 ∧ programStart.toNat = 512 ∧
        State.programCapacity = 3584) ∧
      state = { State.fresh with memory := state.memory } ∧
      state.counter = 0x200 ∧
      ((∀ slot, state.registers.get slot = 0) ∧ state.index = 0 ∧
        state.depth = 0 ∧ (∀ slot, state.stack.get slot = 0) ∧
        (∀ x y, state.screen.cell x y = 0) ∧
        (∀ key, state.keypad.get key = false) ∧
        state.delayTimer = 0 ∧ state.soundTimer = none ∧
        state.redraw = false) ∧
      (∀ length, .programTruncated length ∈ Notice.ofProgram program ↔
        3584 < program.length ∧ length = program.length) ∧
      (∀ (console : Console) (asked : Option (List UInt8))
          (now length : Nat),
        asked.or console.program = some program →
          (Signal.noted (.programTruncated length) ∈
              (console.handle now (.restart asked)).2 ↔
            3584 < program.length ∧ length = program.length)) ∧
      ∀ (other : Machine) (otherProgram : List UInt8),
        otherProgram.take 3584 = program.take 3584 →
          (other.reset otherProgram).state = state ∧
            (other.source = machine.source →
              ∀ stimuli,
                (other.reset otherProgram).run stimuli =
                  reset.run stimuli) := by
  intro reset state
  refine ⟨rfl, State.laidOut_ofProgram program, ⟨rfl, rfl, rfl⟩, rfl, rfl,
    ?zeros, Notice.truncated_mem_ofProgram_iff program, ?warning, ?same⟩
  case zeros =>
    refine ⟨fun slot => ?_, rfl, rfl, fun slot => ?_, fun x y => ?_,
      fun key => ?_, rfl, rfl, rfl⟩
    · exact Vector.getElem_replicate _
    · exact Vector.getElem_replicate _
    · change Screen.blank.cell x y = 0
      simp only [Screen.cell, Screen.row, Screen.blank, Fin.getElem_fin,
        Vector.getElem_replicate]
    · exact Vector.getElem_replicate _
  case warning =>
    intro console asked now length found
    exact console.truncated_mem_restart_iff found now length
  case same =>
    intro other otherProgram sameBytes
    have sameState : (other.reset otherProgram).state = state :=
      State.ofProgram_congr sameBytes
    refine ⟨sameState, fun sameSource stimuli => ?_⟩
    have sameReset : other.reset otherProgram = reset := by
      simp only [Machine.reset, reset, sameSource,
        State.ofProgram_congr sameBytes]
    rw [sameReset]

/-- Programs one byte too long that differ in that byte only. -/
theorem reset_lays_out_oneByteTooLong :
    let zeros := List.replicate 3584 (0 : UInt8)
    let machine := Machine.fresh (KeyStream.ofSeed 0)
    (zeros ++ [1]).take 3584 = (zeros ++ [2]).take 3584 ∧
      zeros ++ [1] ≠ zeros ++ [2] ∧
      Notice.programTruncated 3585 ∈ Notice.ofProgram (zeros ++ [2]) ∧
      (machine.reset (zeros ++ [1])).state =
        (machine.reset (zeros ++ [2])).state := by
  intro zeros machine
  have sameBytes :
      (zeros ++ [1]).take 3584 = (zeros ++ [2]).take 3584 := by
    rw [List.take_left' List.length_replicate,
      List.take_left' List.length_replicate]
  have tooLong : (zeros ++ [2]).length = 3585 := by
    rw [List.length_append, List.length_replicate]
    rfl
  obtain ⟨-, -, -, -, -, -, warned, -, same⟩ :=
    machine.reset_lays_out (zeros ++ [2])
  refine ⟨sameBytes, by simp, ?_, (same machine _ sameBytes).1⟩
  exact (warned 3585).mpr ⟨by omega, tooLong.symm⟩

end Machine

end ChipEight
