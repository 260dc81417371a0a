import ChipEight.Proofs.Listing.Iteration
import ChipEight.Proofs.Text.Numeral

/-!
# Assembling

A line of assembly is the name of an operation and its operands, with a comma behind
each of them but the last.  An operand shows by its first characters what it is, and
immediates differ from addresses in their number of digits.  So an instruction can be
read back from its notation, and no two instructions share one.

A printed line of a listing has the word in front of the notation, and therefore the
lines show all of a program but an odd last byte.
-/

namespace ChipEight

open Text

/-! ## Operands -/

/-- What stands behind the name of an operation. -/
inductive Operand where
  | register (x : UInt8)
  | address (target : UInt16)
  | byte (value : UInt8)
  | count (rows : UInt8)
  | index  -- I
  | atIndex  -- [I]
  | delay  -- DT
  | sound  -- ST
  | key  -- K
  | font  -- F
  | decimalDigits  -- B
  deriving DecidableEq, Repr

namespace Operand

def text : Operand → String
  | .register x => Instruction.registerName x
  | .address target => Instruction.addressText target
  | .byte value => Instruction.byteText value
  | .count rows => decimal rows.toNat
  | .index => "I"
  | .atIndex => "[I]"
  | .delay => "DT"
  | .sound => "ST"
  | .key => "K"
  | .font => "F"
  | .decimalDigits => "B"

/-- The operand that a text stands for; what shows no other mark is a number of
rows. -/
def ofText : List Char → Operand
  | 'V' :: numeral => .register (UInt8.ofNat (valueOf 16 numeral))
  | '0' :: 'x' :: numeral =>
      if numeral.length = 2 then
        .byte (UInt8.ofNat (valueOf 16 numeral))
      else
        .address (UInt16.ofNat (valueOf 16 numeral))
  | ['I'] => .index
  | ['[', 'I', ']'] => .atIndex
  | ['D', 'T'] => .delay
  | ['S', 'T'] => .sound
  | ['K'] => .key
  | ['F'] => .font
  | ['B'] => .decimalDigits
  | numeral => .count (UInt8.ofNat (valueOf 10 numeral))

/-- The characters that show that an operand is no number of rows. -/
def marks : List Char :=
  ['V', 'x', 'I', '[', 'D', 'S', 'K', 'F', 'B']

theorem mark_not_mem_decimal
    {mark : Char} (isMark : mark ∈ marks) (value : Nat) :
    mark ∉ (decimal value).toList := by
  intro inside
  obtain ⟨digit, small, rfl⟩ := digitChar_of_mem_decimal inside
  have apart : ∀ digit < 10, digitChar digit ∉ marks := by decide
  exact apart digit small isMark

theorem ofText_decimal (value : Nat) :
    ofText (decimal value).toList = .count (UInt8.ofNat value) := by
  have unmarked : ∀ mark ∈ marks, mark ∉ (decimal value).toList :=
    fun _ isMark => mark_not_mem_decimal isMark value
  simp only [marks, List.forall_mem_cons] at unmarked
  unfold ofText
  split <;> simp_all [valueOf_decimal]

theorem ofText_text (operand : Operand) :
    ofText operand.text.toList = operand := by
  cases operand with
  | register x =>
      simp [text, Instruction.registerName, ofText, valueOf_hexadecimal]
  | address target =>
      have long := length_hexadecimal 3 target.toNat
      have notTwo : (hexadecimal 3 target.toNat).toList.length ≠ 2 := by omega
      simp only [text, Instruction.addressText, markedHexadecimal,
        String.toList_append]
      simp [ofText, valueOf_hexadecimal, notTwo]
  | byte value =>
      have two : (hexadecimal 2 value.toNat).toList.length = 2 :=
        length_hexadecimal_of_lt value.toNat_lt
      simp only [text, Instruction.byteText, markedHexadecimal,
        String.toList_append]
      simp [ofText, valueOf_hexadecimal, two]
  | count rows => simp [text, ofText_decimal]
  | _ => rfl

/-- The characters between operands. -/
def separators : List Char :=
  [' ', ',']

theorem digitChar_not_mem_separators :
    ∀ digit < 16, digitChar digit ∉ separators := by
  decide

theorem separator_not_mem_hexadecimal
    {separator : Char} (separates : separator ∈ separators)
    (width value : Nat) :
    separator ∉ (hexadecimal width value).toList := by
  intro inside
  obtain ⟨digit, small, rfl⟩ := digitChar_of_mem_hexadecimal inside
  exact digitChar_not_mem_separators digit small separates

theorem separator_not_mem_decimal
    {separator : Char} (separates : separator ∈ separators) (value : Nat) :
    separator ∉ (decimal value).toList := by
  intro inside
  obtain ⟨digit, small, rfl⟩ := digitChar_of_mem_decimal inside
  exact digitChar_not_mem_separators digit (by omega) separates

/-- No operand contains what stands between operands. -/
theorem separator_not_mem_text
    (operand : Operand) {separator : Char}
    (separates : separator ∈ separators) :
    separator ∉ operand.text.toList := by
  have noHexadecimal := separator_not_mem_hexadecimal separates
  have otherwise : separator = ' ' ∨ separator = ',' := by
    simpa [separators] using separates
  cases operand with
  | count rows => exact separator_not_mem_decimal separates rows.toNat
  | _ =>
      obtain rfl | rfl := otherwise <;>
        simp [text, Instruction.registerName, Instruction.addressText,
          Instruction.byteText, markedHexadecimal, noHexadecimal]

end Operand

/-! ## Instructions -/

namespace Instruction

/-- The name of the operation and the operands of an instruction. -/
def assembly : Instruction → String × List Operand
  | .clearScreen => ("CLS", [])
  | .returnFromCall => ("RET", [])
  | .jump address => ("JP", [.address address])
  | .call address => ("CALL", [.address address])
  | .skipIfEqual x byte => ("SE", [.register x, .byte byte])
  | .skipIfNotEqual x byte => ("SNE", [.register x, .byte byte])
  | .skipIfRegistersEqual x y => ("SE", [.register x, .register y])
  | .load x byte => ("LD", [.register x, .byte byte])
  | .add x byte => ("ADD", [.register x, .byte byte])
  | .move x y => ("LD", [.register x, .register y])
  | .or x y => ("OR", [.register x, .register y])
  | .and x y => ("AND", [.register x, .register y])
  | .xor x y => ("XOR", [.register x, .register y])
  | .addRegisters x y => ("ADD", [.register x, .register y])
  | .subtract x y => ("SUB", [.register x, .register y])
  | .shiftRight x => ("SHR", [.register x])
  | .subtractReversed x y => ("SUBN", [.register x, .register y])
  | .shiftLeft x => ("SHL", [.register x])
  | .skipIfRegistersNotEqual x y => ("SNE", [.register x, .register y])
  | .loadIndex address => ("LD", [.index, .address address])
  | .jumpOffset address => ("JP", [.register 0, .address address])
  | .random x byte => ("RND", [.register x, .byte byte])
  | .draw x y rows => ("DRW", [.register x, .register y, .count rows])
  | .skipIfPressed x => ("SKP", [.register x])
  | .skipIfNotPressed x => ("SKNP", [.register x])
  | .getDelay x => ("LD", [.register x, .delay])
  | .waitKey x => ("LD", [.register x, .key])
  | .setDelay x => ("LD", [.delay, .register x])
  | .setSound x => ("LD", [.sound, .register x])
  | .addIndex x => ("ADD", [.index, .register x])
  | .loadFont x => ("LD", [.font, .register x])
  | .storeDecimal x => ("LD", [.decimalDigits, .register x])
  | .storeRegisters x => ("LD", [.atIndex, .register x])
  | .loadRegisters x => ("LD", [.register x, .atIndex])
  | .unknown => ("???", [])

/-- The instruction that an operation with some operands is. -/
def ofAssembly? : String × List Operand → Option Instruction
  | ("CLS", []) => some .clearScreen
  | ("RET", []) => some .returnFromCall
  | ("JP", [.address address]) => some (.jump address)
  | ("CALL", [.address address]) => some (.call address)
  | ("SE", [.register x, .byte byte]) => some (.skipIfEqual x byte)
  | ("SNE", [.register x, .byte byte]) => some (.skipIfNotEqual x byte)
  | ("SE", [.register x, .register y]) => some (.skipIfRegistersEqual x y)
  | ("LD", [.register x, .byte byte]) => some (.load x byte)
  | ("ADD", [.register x, .byte byte]) => some (.add x byte)
  | ("LD", [.register x, .register y]) => some (.move x y)
  | ("OR", [.register x, .register y]) => some (.or x y)
  | ("AND", [.register x, .register y]) => some (.and x y)
  | ("XOR", [.register x, .register y]) => some (.xor x y)
  | ("ADD", [.register x, .register y]) => some (.addRegisters x y)
  | ("SUB", [.register x, .register y]) => some (.subtract x y)
  | ("SHR", [.register x]) => some (.shiftRight x)
  | ("SUBN", [.register x, .register y]) => some (.subtractReversed x y)
  | ("SHL", [.register x]) => some (.shiftLeft x)
  | ("SNE", [.register x, .register y]) => some (.skipIfRegistersNotEqual x y)
  | ("LD", [.index, .address address]) => some (.loadIndex address)
  | ("JP", [.register _, .address address]) => some (.jumpOffset address)
  | ("RND", [.register x, .byte byte]) => some (.random x byte)
  | ("DRW", [.register x, .register y, .count rows]) => some (.draw x y rows)
  | ("SKP", [.register x]) => some (.skipIfPressed x)
  | ("SKNP", [.register x]) => some (.skipIfNotPressed x)
  | ("LD", [.register x, .delay]) => some (.getDelay x)
  | ("LD", [.register x, .key]) => some (.waitKey x)
  | ("LD", [.delay, .register x]) => some (.setDelay x)
  | ("LD", [.sound, .register x]) => some (.setSound x)
  | ("ADD", [.index, .register x]) => some (.addIndex x)
  | ("LD", [.font, .register x]) => some (.loadFont x)
  | ("LD", [.decimalDigits, .register x]) => some (.storeDecimal x)
  | ("LD", [.atIndex, .register x]) => some (.storeRegisters x)
  | ("LD", [.register x, .atIndex]) => some (.loadRegisters x)
  | ("???", []) => some .unknown
  | _ => none

theorem ofAssembly?_assembly (instruction : Instruction) :
    ofAssembly? instruction.assembly = some instruction := by
  cases instruction <;> rfl

def operandTexts (instruction : Instruction) : List (List Char) :=
  instruction.assembly.2.map fun operand => operand.text.toList

theorem separator_not_mem_operandTexts
    {instruction : Instruction} {separator : Char}
    (separates : separator ∈ Operand.separators) :
    ∀ text ∈ instruction.operandTexts, separator ∉ text := by
  intro text inTexts
  obtain ⟨operand, _, rfl⟩ := List.mem_map.mp inTexts
  exact operand.separator_not_mem_text separates

/-- Texts with a comma behind each but the last. -/
def commaEnded : List (List Char) → List (List Char)
  | [] => []
  | [last] => [last]
  | text :: rest => (text ++ [',']) :: commaEnded rest

/-- What stands between the blanks of a line of assembly. -/
def words (instruction : Instruction) : List (List Char) :=
  instruction.assembly.1.toList :: commaEnded instruction.operandTexts

theorem registerName_zero : registerName 0 = "V0" := by
  decide +kernel

/-- The notation of an instruction is its words with a blank between them. -/
theorem toList_mnemonic (instruction : Instruction) :
    instruction.mnemonic.toList = [' '].intercalate instruction.words := by
  cases instruction <;>
    simp [mnemonic, words, operandTexts, assembly, onByte, onRegisters,
      commaEnded, Operand.text, registerName_zero, List.intercalate]

/-- No name of an operation contains a blank. -/
theorem blank_not_mem_operation (instruction : Instruction) :
    ' ' ∉ instruction.assembly.1.toList := by
  cases instruction <;> simp [assembly]

theorem mem_commaEnded
    {texts : List (List Char)} {word : List Char}
    (inside : word ∈ commaEnded texts) :
    ∃ text ∈ texts, word = text ∨ word = text ++ [','] := by
  match texts with
  | [] => cases inside
  | [last] =>
      have isLast := List.mem_singleton.mp inside
      exact ⟨last, List.mem_singleton_self last, .inl isLast⟩
  | first :: second :: rest =>
      obtain rfl | inRest := List.mem_cons.mp inside
      · exact ⟨first, List.mem_cons_self, .inr rfl⟩
      · obtain ⟨text, inTexts, isText⟩ := mem_commaEnded inRest
        exact ⟨text, List.mem_cons_of_mem first inTexts, isText⟩

def withoutCommas (word : List Char) : List Char :=
  word.filter (· ≠ ',')

theorem withoutCommas_of_not_mem
    {text : List Char} (noComma : ',' ∉ text) :
    withoutCommas text = text := by
  rw [withoutCommas, List.filter_eq_self]
  intro char inside
  exact decide_eq_true fun isComma => noComma (isComma ▸ inside)

theorem withoutCommas_commaEnded
    {texts : List (List Char)} (noCommas : ∀ text ∈ texts, ',' ∉ text) :
    (commaEnded texts).map withoutCommas = texts := by
  match texts with
  | [] => rfl
  | [last] =>
      have noComma := noCommas last (List.mem_singleton_self last)
      rw [commaEnded, List.map_singleton, withoutCommas_of_not_mem noComma]
  | first :: second :: rest =>
      obtain ⟨noComma, others⟩ := List.forall_mem_cons.mp noCommas
      have bare := withoutCommas_of_not_mem noComma
      have ended : withoutCommas (first ++ [',']) = first := by
        rw [withoutCommas] at bare ⊢
        rw [List.filter_append, bare]
        simp
      rw [commaEnded, List.map_cons, ended, withoutCommas_commaEnded others]
      simp

/-- The instruction that a line of assembly stands for. -/
def ofMnemonic? (text : String) : Option Instruction :=
  match text.toList.splitOn ' ' with
  | operation :: operands =>
      ofAssembly?
        (String.ofList operation,
          operands.map fun word => Operand.ofText (withoutCommas word))
  | [] => none

theorem splitOn_mnemonic (instruction : Instruction) :
    instruction.mnemonic.toList.splitOn ' ' = instruction.words := by
  rw [toList_mnemonic]
  refine List.splitOn_intercalate ' ' ?_ (List.cons_ne_nil _ _)
  refine List.forall_mem_cons.mpr ⟨blank_not_mem_operation instruction, ?_⟩
  intro word inside
  obtain ⟨text, inTexts, isText⟩ := mem_commaEnded inside
  have noBlank : ' ' ∉ text :=
    separator_not_mem_operandTexts (by decide) text inTexts
  obtain rfl | rfl := isText
  · exact noBlank
  · simpa using noBlank

/-- Each instruction is read back from its notation. -/
theorem ofMnemonic?_mnemonic (instruction : Instruction) :
    ofMnemonic? instruction.mnemonic = some instruction := by
  have bare :
      (commaEnded instruction.operandTexts).map withoutCommas =
        instruction.operandTexts :=
    withoutCommas_commaEnded (separator_not_mem_operandTexts (by decide))
  have operands :
      (commaEnded instruction.operandTexts).map
          (fun word => Operand.ofText (withoutCommas word)) =
        instruction.assembly.2 := by
    rw [← Function.comp_def Operand.ofText, ← List.map_map, bare,
      operandTexts, List.map_map]
    simp [Function.comp_def, Operand.ofText_text]
  rw [ofMnemonic?, splitOn_mnemonic, words]
  simp only [String.ofList_toList, operands]
  exact ofAssembly?_assembly instruction

theorem mnemonic_inj {left right : Instruction} :
    left.mnemonic = right.mnemonic ↔ left = right := by
  refine ⟨fun same => ?_, congrArg mnemonic⟩
  rw [← Option.some.injEq, ← ofMnemonic?_mnemonic left, same,
    ofMnemonic?_mnemonic]

end Instruction

/-! ## Printed listings -/

namespace Listing

/-- The word that is shown on a printed line, behind four digits and two blanks. -/
def wordOfText (text : String) : Nat :=
  valueOf 16 ((text.toList.drop 6).take 4)

theorem wordOfText_text (line : Line) :
    wordOfText line.text = line.word.toNat := by
  have addressLength :
      (hexadecimal 4 line.address.toNat).toList.length = 4 :=
    length_hexadecimal_of_lt line.address.toNat_lt
  have wordLength : (hexadecimal 4 line.word.toNat).toList.length = 4 :=
    length_hexadecimal_of_lt line.word.toNat_lt
  have behindAddress :
      line.text.toList.drop 6 =
        (hexadecimal 4 line.word.toNat).toList ++
          ([' ', ' '] ++ line.instruction.mnemonic.toList) := by
    simp [Line.text, List.drop_append, addressLength]
  rw [wordOfText, behindAddress, List.take_append_of_le_length (by omega),
    List.take_of_length_le (by omega), valueOf_hexadecimal]

/-- The printed lines show the bytes of the program. -/
theorem bytes_of_print (program : List UInt8) :
    (print program).flatMap
        (fun text =>
          [UInt8.ofNat (wordOfText text / 256),
            UInt8.ofNat (wordOfText text % 256)]) =
      program.take (2 * (program.length / 2)) := by
  rw [print, List.flatMap_map]
  simp only [wordOfText_text]
  exact flatMap_bytes_linesFrom programStart program

/-- An odd last byte makes no line. -/
theorem linesFrom_take (address : UInt16) (bytes : List UInt8) :
    linesFrom address (bytes.take (2 * (bytes.length / 2))) =
      linesFrom address bytes := by
  match bytes with
  | [] => rfl
  | [_] => simp [linesFrom]
  | high :: low :: rest =>
      have longer :
          2 * ((high :: low :: rest).length / 2) =
            2 * (rest.length / 2) + 1 + 1 := by
        simp only [List.length_cons]
        omega
      have inner := linesFrom_take (address + 2) rest
      rw [longer, List.take_succ_cons, List.take_succ_cons, linesFrom,
        linesFrom, inner]

theorem print_eq_print_iff (left right : List UInt8) :
    print left = print right ↔
      left.take (2 * (left.length / 2)) =
        right.take (2 * (right.length / 2)) := by
  constructor
  · intro same
    rw [← bytes_of_print left, same, bytes_of_print]
  · intro same
    simp only [print, lines, ofProgram]
    rw [← linesFrom_take programStart left, same, linesFrom_take]

end Listing

namespace Instruction

/-- No two instructions share a notation, so that two words are described alike exactly
if they decode alike; and no two programs share a listing, an odd last byte apart. -/
theorem mnemonics_unambiguous :
    (∀ left right : Instruction,
      left.mnemonic = right.mnemonic ↔ left = right) ∧
      (∀ left right : UInt16,
        (decode left).mnemonic = (decode right).mnemonic ↔
          decode left = decode right) ∧
      ∀ left right : List UInt8,
        Listing.print left = Listing.print right ↔
          left.take (2 * (left.length / 2)) =
            right.take (2 * (right.length / 2)) := by
  refine ⟨fun left right => mnemonic_inj, fun left right => mnemonic_inj, ?_⟩
  exact Listing.print_eq_print_iff

end Instruction

end ChipEight
