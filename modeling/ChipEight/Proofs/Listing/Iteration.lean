import ChipEight.Proofs.Memory.Stored
import ChipEight.Proofs.State.Faults
import Mathlib.Logic.Function.Iterate

/-!
# Listings and what they list

A listing that has been advanced any number of times still has exactly the rest of its
lines to come, and says how many these are.  Line by line it is the program image: the
words hold its bytes in order, and the addresses are those the bytes are loaded to.

So a machine with the program loaded finds at the address of a line the word of that
line, and executes its instruction.  This holds as far as the program fits in memory.
-/

namespace ChipEight

/-- A word has its high byte in front and its low byte behind. -/
theorem toNat_wordOfBytes (high low : UInt8) :
    (wordOfBytes high low).toNat = high.toNat * 256 + low.toNat := by
  have highSmall := high.toNat_lt
  have lowSmall := low.toNat_lt
  have shifted : (high.toUInt16 <<< 8).toNat = high.toNat <<< 8 := by
    rw [UInt16.toNat_shiftLeft, UInt8.toNat_toUInt16]
    rw [Nat.shiftLeft_eq]
    simp
    omega
  rw [wordOfBytes, UInt16.toNat_or, shifted, UInt8.toNat_toUInt16,
    ← Nat.shiftLeft_add_eq_or_of_lt (b := low.toNat) (i := 8) lowSmall,
    Nat.shiftLeft_eq]

namespace Listing

/-- The bytes of a word, the high one first. -/
def Line.bytes (line : Line) : List UInt8 :=
  [UInt8.ofNat (line.word.toNat / 256), UInt8.ofNat (line.word.toNat % 256)]

/-- What executing a line comes to while no call is open. -/
def Line.outcome (line : Line) : Except Fault Instruction :=
  match line.instruction with
  | .unknown => .error (.unknownOpcode line.word line.address)
  | .returnFromCall => .error (.stackUnderflow line.address)
  | instruction => .ok instruction

/-! ## Iteration -/

variable {listing : Listing}

theorem lines_of_next?_eq_none (atEnd : listing.next? = none) :
    listing.lines = [] := by
  obtain ⟨bytes, address⟩ := listing
  match bytes with
  | [] => rfl
  | [_] => rfl
  | _ :: _ :: _ => cases atEnd

theorem head?_lines (listing : Listing) :
    listing.lines.head? = listing.next?.map Prod.fst := by
  cases found : listing.next? with
  | none =>
      rw [lines_of_next?_eq_none found]
      rfl
  | some entry =>
      rw [lines_of_next? found]
      rfl

theorem lines_advance (listing : Listing) :
    listing.advance.lines = listing.lines.tail := by
  unfold advance
  cases found : listing.next? with
  | none =>
      rw [lines_of_next?_eq_none found]
      rfl
  | some entry =>
      rw [lines_of_next? found]
      rfl

theorem lines_iterate_advance (listing : Listing) (taken : Nat) :
    (advance^[taken] listing).lines = listing.lines.drop taken := by
  induction taken with
  | zero => rfl
  | succ taken inductionHypothesis =>
      rw [Function.iterate_succ_apply', lines_advance, inductionHypothesis,
        List.tail_drop]

/-- The line that comes after a number of lines, if there are so many. -/
theorem next?_iterate_advance (listing : Listing) (taken : Nat) :
    (advance^[taken] listing).next?.map Prod.fst =
      listing.lines[taken]? := by
  rw [← head?_lines, lines_iterate_advance, List.head?_drop]

/-! ## The program image -/

theorem bytes_wordOfBytes (high low : UInt8) (address : UInt16)
    (instruction : Instruction) :
    Line.bytes ⟨address, wordOfBytes high low, instruction⟩ =
      [high, low] := by
  have lowSmall := low.toNat_lt
  have first : (high.toNat * 256 + low.toNat) / 256 = high.toNat := by
    omega
  have second : (high.toNat * 256 + low.toNat) % 256 = low.toNat := by
    omega
  simp only [Line.bytes, toNat_wordOfBytes, first, second,
    UInt8.ofNat_toNat]

theorem flatMap_bytes_linesFrom (address : UInt16) (bytes : List UInt8) :
    (linesFrom address bytes).flatMap Line.bytes =
      bytes.take (2 * (bytes.length / 2)) := by
  match bytes with
  | [] => rfl
  | [_] => simp [linesFrom]
  | high :: low :: rest =>
      have inner := flatMap_bytes_linesFrom (address + 2) rest
      have longer :
          2 * ((high :: low :: rest).length / 2) =
            2 * (rest.length / 2) + 1 + 1 := by
        simp only [List.length_cons]
        omega
      rw [linesFrom, List.flatMap_cons, inner, bytes_wordOfBytes, longer,
        List.take_succ_cons, List.take_succ_cons]
      rfl

/-- A line holds two bytes of the program, at the place where they are. -/
theorem getElem?_linesFrom
    {address : UInt16} {bytes : List UInt8} {place : Nat} {line : Line}
    (found : (linesFrom address bytes)[place]? = some line) :
    ∃ inRange : 2 * place + 1 < bytes.length,
      line.address = address + UInt16.ofNat (2 * place) ∧
        line.word =
          wordOfBytes bytes[2 * place] bytes[2 * place + 1] ∧
        line.instruction = Instruction.decode line.word := by
  match bytes, place with
  | [], _ => simp [linesFrom] at found
  | [_], _ => simp [linesFrom] at found
  | high :: low :: rest, 0 =>
      simp only [linesFrom, List.getElem?_cons_zero, Option.some.injEq]
        at found
      subst found
      refine ⟨by simp, ?_, rfl, rfl⟩
      simp
  | high :: low :: rest, place + 1 =>
      rw [linesFrom, List.getElem?_cons_succ] at found
      obtain ⟨inRange, isAddress, isWord, isInstruction⟩ :=
        getElem?_linesFrom found
      have longer : 2 * (place + 1) + 1 < (high :: low :: rest).length := by
        simp only [List.length_cons]
        omega
      refine ⟨longer, ?_, isWord, isInstruction⟩
      rw [isAddress]
      have moved :
          UInt16.ofNat (2 * (place + 1)) = 2 + UInt16.ofNat (2 * place) := by
        rw [Nat.mul_succ, Nat.add_comm, UInt16.ofNat_add]
        rfl
      rw [moved, UInt16.add_assoc]

end Listing

/-! ## Executing a listed line -/

/-- The state of a loaded program with the program counter put somewhere. -/
def State.startingAt (program : List UInt8) (counter : UInt16) : State :=
  { State.ofProgram program with counter := counter }

/-- The machine with a program loaded, put at some address. -/
def Machine.startAt
    (machine : Machine) (program : List UInt8) (counter : UInt16) : Machine :=
  { machine.reset program with state := State.startingAt program counter }

theorem State.fetch_startingAt
    {program : List UInt8} {place : Nat}
    (inRange : 2 * place + 1 < program.length)
    (fits : 2 * place + 1 < programCapacity) :
    (startingAt program
        (programStart + UInt16.ofNat (2 * place))).fetch =
      wordOfBytes program[2 * place] program[2 * place + 1] := by
  have behind :
      programStart + UInt16.ofNat (2 * place) + 1 =
        programStart + UInt16.ofNat (2 * place + 1) := by
    rw [UInt16.ofNat_add, UInt16.ofNat_one, UInt16.add_assoc]
  have high :
      (ofProgram program).memory.read
          (programStart + UInt16.ofNat (2 * place)) =
        program[2 * place] := read_ofProgram (by omega) (by omega)
  have low := read_ofProgram inRange fits
  simp only [fetch, startingAt, behind, high, low]

/-- A loaded program has no call open, so it can meet no full return stack, and an
empty one at each return. -/
theorem State.fault?_startingAt (program : List UInt8) (counter : UInt16) :
    (startingAt program counter).fault? =
      match (startingAt program counter).instruction with
      | .unknown =>
          some
            (.unknownOpcode (startingAt program counter).fetch counter)
      | .returnFromCall => some (.stackUnderflow counter)
      | _ => none := by
  have isEmpty : (startingAt program counter).depth = 0 := rfl
  have notFull :
      ¬ stackDepth ≤ (startingAt program counter).depth.toNat := by
    rw [isEmpty]
    decide
  rw [fault?, if_pos isEmpty, if_neg notFull]
  cases (startingAt program counter).instruction <;> rfl

namespace Listing

theorem outcome_startAt
    (machine : Machine) {program : List UInt8} {line : Line}
    (fetched : (State.startingAt program line.address).fetch = line.word)
    (decoded : line.instruction = Instruction.decode line.word) :
    (machine.startAt program line.address).step.2 = line.outcome := by
  have isInstruction :
      (State.startingAt program line.address).instruction =
        line.instruction := by
    rw [State.instruction, fetched, decoded]
  rw [Machine.outcome_step]
  simp only [Machine.startAt, State.fault?_startingAt, isInstruction,
    fetched, Line.outcome]
  cases line.instruction <;> rfl

/-- The listing of a program agrees with its bytes, with its own promise of what is
still to come, and with a machine that has the program loaded. -/
theorem listing_agrees (program : List UInt8) :
    let lines := (ofProgram program).lines
    lines.length = program.length / 2 ∧
      lines.flatMap Line.bytes =
        program.take (2 * (program.length / 2)) ∧
      (∀ place line, lines[place]? = some line →
        line.address.toNat = (0x200 + 2 * place) % 65536 ∧
          line.instruction = Instruction.decode line.word) ∧
      (∀ taken, let rest := advance^[taken] (ofProgram program)
        rest.remaining = lines.length - taken ∧
          rest.lines = lines.drop taken ∧
          ∀ more, (advance^[more] rest).next?.map Prod.fst =
            (lines.drop taken)[more]?) ∧
      ∀ (machine : Machine) place line, lines[place]? = some line →
        2 * place + 1 < 3584 →
          (machine.startAt program line.address).state.fetch =
              line.word ∧
            (machine.startAt program line.address).step.2 =
              line.outcome := by
  refine ⟨length_lines _, flatMap_bytes_linesFrom _ _, ?addresses, ?rests,
    ?machines⟩
  case addresses =>
    intro place line found
    obtain ⟨_, isAddress, _, isInstruction⟩ := getElem?_linesFrom found
    have start : (ofProgram program).address.toNat = 0x200 := rfl
    refine ⟨?_, isInstruction⟩
    rw [isAddress, UInt16.toNat_add, start, UInt16.toNat_ofNat']
    omega
  case rests =>
    intro taken
    have stillToCome := lines_iterate_advance (ofProgram program) taken
    refine ⟨?_, stillToCome, fun more => ?_⟩
    · rw [← length_lines, stillToCome, List.length_drop]
    · rw [next?_iterate_advance, stillToCome]
  case machines =>
    intro machine place line found fits
    obtain ⟨inRange, isAddress, isWord, isInstruction⟩ :=
      getElem?_linesFrom found
    have fetched :
        (State.startingAt program line.address).fetch = line.word := by
      rw [isAddress, isWord]
      exact State.fetch_startingAt inRange fits
    exact ⟨fetched, outcome_startAt machine fetched isInstruction⟩

/-- A return on the second line of a program with an odd last byte. -/
theorem listing_agrees_return :
    let program : List UInt8 := [0x60, 0x01, 0x00, 0xEE, 0x12]
    let line : Line := ⟨0x202, 0x00EE, .returnFromCall⟩
    let placed :=
      (Machine.fresh (KeyStream.ofSeed 0)).startAt program 0x202
    (ofProgram program).lines[1]? = some line ∧
      2 * 1 + 1 < 3584 ∧
      (ofProgram program).lines.flatMap Line.bytes =
        [0x60, 0x01, 0x00, 0xEE] ∧
      placed.state.fetch = 0x00EE ∧
      placed.step.2 = .error (.stackUnderflow 0x202) := by
  intro program line placed
  obtain ⟨_, inOrder, _, _, executed⟩ := listing_agrees program
  have found : (ofProgram program).lines[1]? = some line := rfl
  have fits : 2 * 1 + 1 < 3584 := by omega
  obtain ⟨fetched, outcome⟩ :=
    executed (Machine.fresh (KeyStream.ofSeed 0)) 1 line found fits
  exact ⟨found, fits, inOrder.trans (by decide), fetched, outcome⟩

end Listing

end ChipEight
