import ChipEight.Proofs.Json.Number
import ChipEight.Proofs.Text.Units
import ChipEight.Text.Numeral
import Mathlib.Algebra.Group.Nat.Defs
import Mathlib.Data.List.Chain
import Mathlib.Data.List.Forall2

/-!
# Texts of tokens

A text lays out tokens if it has them one behind the other, each in one of the ways it
can be written, with any blanks before, between and behind them.  The machine that splits
a text finds only tokens that the text lays out.  It finds them all if of two neighbours
one is a bracket, a comma or a colon, so that a word or a number ends where its neighbour
begins.
-/

namespace ChipEight.Json

/-! ## Ways to write a token -/

/-- Whether a character is a hexadecimal digit of some value, in either case. -/
def IsHexDigit (char : Char) (value : Nat) : Prop :=
  value < 16 ∧
    (char = Text.digitChar value ∨ char = (Text.digitChar value).toLower)

/-- The number that digits make, read on from a number. -/
def hexNumber (value : Nat) (digits : List Nat) : Nat :=
  digits.foldl (fun value digit => value * 16 + digit) value

/-- The escapes that are a single character behind the backslash, with their units. -/
def escapes : List (Char × Nat) :=
  [('"', 0x22), ('\\', 0x5C), ('/', 0x2F), ('b', 0x08), ('f', 0x0C),
    ('n', 0x0A), ('r', 0x0D), ('t', 0x09)]

/-- Units and a way to write them between quotation marks. -/
inductive Contents : List Nat → List Char → Prop
  | nil : Contents [] []
  | plain {char : Char} {units : List Nat} {text : List Char} :
      char ≠ '"' → char ≠ '\\' → 0x20 ≤ char.toNat →
      Contents units text →
      Contents (char.toNat :: units) (char :: text)
  | escape {letter : Char} {unit : Nat} {units : List Nat} {text : List Char} :
      (letter, unit) ∈ escapes →
      Contents units text →
      Contents (unit :: units) ('\\' :: letter :: text)
  | code {chars : List Char} {digits units : List Nat} {text : List Char} :
      List.Forall₂ IsHexDigit chars digits → chars.length = 4 →
      Contents units text →
      Contents (hexNumber 0 digits :: units) ('\\' :: 'u' :: (chars ++ text))

namespace Token

/-- Whether some characters are a way to write a token. -/
def WrittenAs : Token → List Char → Prop
  | .openArray => fun chars => chars = ['[']
  | .closeArray => fun chars => chars = [']']
  | .openObject => fun chars => chars = ['\x7b']
  | .closeObject => fun chars => chars = ['\x7d']
  | .comma => fun chars => chars = [',']
  | .colon => fun chars => chars = [':']
  | .null => fun chars => chars = ['n', 'u', 'l', 'l']
  | .truth true => fun chars => chars = ['t', 'r', 'u', 'e']
  | .truth false => fun chars => chars = ['f', 'a', 'l', 's', 'e']
  | .number digits => fun chars => chars = digits ∧ IsNumber digits
  | .text units => fun chars =>
      ∃ contents, chars = '"' :: (contents ++ ['"']) ∧ Contents units contents

end Token

def blanks : List Char :=
  [' ', '\t', '\n', '\r']

/-- Whether a text is just some tokens and blanks between them. -/
inductive Layout : List Token → List Char → Prop
  | done : Layout [] []
  | blank {char : Char} {tokens : List Token} {text : List Char} :
      char ∈ blanks → Layout tokens text → Layout tokens (char :: text)
  | token {token : Token} {chars : List Char} {tokens : List Token}
      {text : List Char} :
      token.WrittenAs chars → Layout tokens text →
      Layout (token :: tokens) (chars ++ text)

theorem blanks_of_layout {text : List Char} (laidOut : Layout [] text) :
    ∀ char ∈ text, char ∈ blanks := by
  induction text with
  | nil => exact List.forall_mem_nil _
  | cons char text inductionHypothesis =>
      cases laidOut with
      | blank isBlank laidOut =>
          exact List.forall_mem_cons.mpr ⟨isBlank, inductionHypothesis laidOut⟩

theorem Layout.single
    {token : Token} {chars : List Char} (written : token.WrittenAs chars) :
    Layout [token] chars := by
  rw [← List.append_nil chars]
  exact .token written .done

theorem Layout.append
    {left right : List Token} {front behind : List Char}
    (first : Layout left front) (second : Layout right behind) :
    Layout (left ++ right) (front ++ behind) := by
  induction first with
  | done => exact second
  | blank isBlank _ inductionHypothesis =>
      exact .blank isBlank inductionHypothesis
  | token written _ inductionHypothesis =>
      rw [List.append_assoc]
      exact .token written inductionHypothesis

/-! ## Characters -/

theorem isBlank_iff (char : Char) :
    Scan.isBlank char = true ↔ char ∈ blanks := by
  simp [Scan.isBlank, blanks, or_assoc]

theorem escape?_eq_some_iff (letter : Char) (unit : Nat) :
    Scan.escape? letter = some unit ↔ (letter, unit) ∈ escapes := by
  unfold Scan.escape? escapes
  split <;> simp_all [eq_comm]

theorem isDigit_iff (char : Char) :
    char.isDigit = true ↔ 48 ≤ char.toNat ∧ char.toNat ≤ 57 := by
  simp [Char.isDigit, UInt32.le_iff_toNat_le]

theorem isLower_iff (char : Char) :
    char.isLower = true ↔ 97 ≤ char.toNat ∧ char.toNat ≤ 122 := by
  change (decide ('a'.val ≤ char.val) && decide (char.val ≤ 'z'.val)) = true ↔ _
  simp [UInt32.le_iff_toNat_le]

theorem toNat_digitChar :
    ∀ value < 16,
      (Text.digitChar value).toNat =
        if value < 10 then 48 + value else 55 + value := by
  decide

theorem toNat_toLower_digitChar :
    ∀ value < 16,
      (Text.digitChar value).toLower.toNat =
        if value < 10 then 48 + value else 87 + value := by
  decide

theorem hexValue?_eq_some_iff (char : Char) (value : Nat) :
    Scan.hexValue? char = some value ↔ IsHexDigit char value := by
  have between (low high : Char) :
      low ≤ char ∧ char ≤ high ↔
        low.toNat ≤ char.toNat ∧ char.toNat ≤ high.toNat := by
    simp only [Char.le_def, UInt32.le_iff_toNat_le]
    rfl
  have smallCase := between 'a' 'f'
  have largeCase := between 'A' 'F'
  have digitCase := isDigit_iff char
  simp only [Char.reduceToNat] at smallCase largeCase
  by_cases small : value < 16
  · rw [IsHexDigit, ← Char.toNat_inj, ← Char.toNat_inj,
      toNat_digitChar value small, toNat_toLower_digitChar value small,
      Scan.hexValue?]
    simp only [digitCase, smallCase, largeCase]
    split <;> split <;> grind
  · rw [IsHexDigit, Scan.hexValue?]
    simp only [digitCase, smallCase, largeCase, small, false_and, iff_false]
    grind

/-! ## What was read is laid out -/

namespace Scan

/-- The tokens read when the machine goes on with a text to its end. -/
def read? (scan : Scan) (text : List Char) : Option (List Token) :=
  (text.foldlM step scan).bind finish

theorem read?_cons (scan : Scan) (char : Char) (text : List Char) :
    scan.read? (char :: text) = (scan.step char).bind (read? · text) := by
  rw [read?, List.foldlM_cons]
  cases scan.step char <;> rfl

end Scan

theorem ofText?_eq_read? (text : List Char) :
    Token.ofText? text = Scan.start.read? text :=
  rfl

/-- Whether a text ends a string some units of which have been read, and lays out the
tokens behind it. -/
def EndsString (units : List Nat) (tokens : List Token) (text : List Char) : Prop :=
  ∃ further contents behind others,
    text = contents ++ '"' :: behind ∧
      Contents further contents ∧
        tokens = .text (units.reverse ++ further) :: others ∧
          Layout others behind

/-- What a text is if the machine reads some tokens from it, whatever it is inside of
before it. -/
def Mode.Reads : Mode → List Token → List Char → Prop
  | .gap => Layout
  | .word letters => fun tokens text =>
      ∃ tail behind token others,
        text = tail ++ behind ∧
          Scan.word? (letters.reverse ++ tail) = some token ∧
            tokens = token :: others ∧ Layout others behind
  | .number part digits => fun tokens text =>
      ∃ tail behind others,
        text = tail ++ behind ∧ part.Rest tail ∧
          tokens = .number (digits.reverse ++ tail) :: others ∧
            Layout others behind
  | .text units => EndsString units
  | .escape units => fun tokens text => EndsString units tokens ('\\' :: text)
  | .code units missing value => fun tokens text =>
      ∃ chars digits tail,
        text = chars ++ tail ∧ chars.length = max 1 missing ∧
          List.Forall₂ IsHexDigit chars digits ∧
            EndsString (hexNumber value digits :: units) tokens tail

theorem writtenAs_of_word?
    {letters : List Char} {token : Token}
    (isWord : Scan.word? letters = some token) : token.WrittenAs letters := by
  unfold Scan.word? at isWord
  split at isWord
  · cases isWord
    assumption
  · split at isWord
    · cases isWord
      assumption
    · split at isWord
      · cases isWord
        assumption
      · cases isWord

theorem writtenAs_of_mark?
    {char : Char} {token : Token}
    (isMark : Scan.mark? char = some token) : token.WrittenAs [char] := by
  unfold Scan.mark? at isMark
  split at isMark <;> cases isMark <;> rfl

section

variable {units : List Nat} {tokens : List Token} {text : List Char}

/-- A unit written in front of what ends a string. -/
theorem endsString_of_unit
    {unit : Nat} (front : List Char)
    (written : ∀ further contents, Contents further contents →
      Contents (unit :: further) (front ++ contents))
    (ends : EndsString (unit :: units) tokens text) :
    EndsString units tokens (front ++ text) := by
  obtain ⟨further, contents, behind, others, rfl, areContents, rfl, laidOut⟩ :=
    ends
  refine
    ⟨unit :: further, front ++ contents, behind, others, ?_,
      written further contents areContents, ?_, laidOut⟩
  · rw [List.append_assoc]
  · rw [List.reverse_cons, List.append_assoc, List.singleton_append]

/-- A step from between two tokens leads to where a layout begins. -/
theorem layout_of_stepGap
    {before : List Token} {char : Char} {scan : Scan}
    (stepped : Scan.stepGap before char = some scan)
    (reads : scan.mode.Reads tokens text) :
    ∃ more,
      scan.tokens.reverse ++ tokens = before.reverse ++ more ∧
        Layout more (char :: text) := by
  unfold Scan.stepGap at stepped
  split at stepped
  case isTrue isBlank =>
    cases stepped
    exact ⟨tokens, rfl, .blank ((isBlank_iff char).mp isBlank) reads⟩
  split at stepped
  case isTrue isQuote =>
    subst isQuote
    cases stepped
    obtain ⟨further, contents, behind, others, rfl, areContents, rfl, laidOut⟩ :=
      reads
    have written :
        (Token.text further).WrittenAs ('"' :: (contents ++ ['"'])) :=
      ⟨contents, rfl, areContents⟩
    refine ⟨.text further :: others, rfl, ?_⟩
    simpa using Layout.token written laidOut
  split at stepped
  case isTrue isLower =>
    cases stepped
    obtain ⟨tail, behind, token, others, rfl, isWord, rfl, laidOut⟩ := reads
    exact ⟨token :: others, rfl, .token (writtenAs_of_word? isWord) laidOut⟩
  split at stepped
  case h_1 part first =>
    cases stepped
    obtain ⟨tail, behind, others, rfl, rest, rfl, laidOut⟩ := reads
    have written :
        (Token.number (char :: tail)).WrittenAs (char :: tail) :=
      ⟨rfl, NumberPart.isNumber_cons.mpr ⟨part, first, rest⟩⟩
    exact ⟨_, rfl, .token written laidOut⟩
  case h_2 =>
    obtain ⟨token, isMark, rfl⟩ := Option.map_eq_some_iff.mp stepped
    refine ⟨token :: tokens, by simp, ?_⟩
    exact .token (writtenAs_of_mark? isMark) reads

theorem endsString_of_stepText
    {before : List Token} {char : Char} {scan : Scan}
    (stepped : Scan.stepText units before char = some scan)
    (reads : scan.mode.Reads tokens text) :
    ∃ more,
      scan.tokens.reverse ++ tokens = before.reverse ++ more ∧
        EndsString units more (char :: text) := by
  unfold Scan.stepText at stepped
  split at stepped
  case isTrue isQuote =>
    subst isQuote
    cases stepped
    refine ⟨.text units.reverse :: tokens, by simp, ?_⟩
    exact ⟨[], [], text, tokens, rfl, .nil, by simp, reads⟩
  split at stepped
  case isTrue isBackslash =>
    subst isBackslash
    cases stepped
    exact ⟨tokens, rfl, reads⟩
  split at stepped
  case isTrue => cases stepped
  case isFalse notQuote notBackslash notControl =>
    cases stepped
    refine ⟨tokens, rfl, endsString_of_unit [char] ?_ reads⟩
    intro further contents areContents
    exact .plain notQuote notBackslash (Nat.not_lt.mp notControl) areContents

theorem endsString_of_stepEscape
    {before : List Token} {char : Char} {scan : Scan}
    (stepped : Scan.stepEscape units before char = some scan)
    (reads : scan.mode.Reads tokens text) :
    scan.tokens = before ∧ EndsString units tokens ('\\' :: char :: text) := by
  unfold Scan.stepEscape at stepped
  split at stepped
  case isTrue isCode =>
    subst isCode
    cases stepped
    obtain ⟨chars, digits, tail, rfl, fourChars, areDigits, ends⟩ := reads
    refine ⟨rfl, endsString_of_unit ('\\' :: 'u' :: chars) ?_ ends⟩
    intro further contents areContents
    exact .code areDigits fourChars areContents
  case isFalse =>
    obtain ⟨unit, isEscape, rfl⟩ := Option.map_eq_some_iff.mp stepped
    refine ⟨rfl, endsString_of_unit ['\\', char] ?_ reads⟩
    intro further contents areContents
    exact .escape ((escape?_eq_some_iff char unit).mp isEscape) areContents

theorem reads_of_stepCode
    {missing value : Nat} {before : List Token} {char : Char} {scan : Scan}
    (stepped : Scan.stepCode units missing value before char = some scan)
    (reads : scan.mode.Reads tokens text) :
    scan.tokens = before ∧
      (Mode.code units missing value).Reads tokens (char :: text) := by
  obtain ⟨digit, isDigit, rfl⟩ := Option.map_eq_some_iff.mp stepped
  have hexDigit := (hexValue?_eq_some_iff char digit).mp isDigit
  by_cases isLast : missing ≤ 1
  · simp only [if_pos isLast] at reads ⊢
    refine ⟨trivial, [char], [digit], text, rfl, ?_, .cons hexDigit .nil, reads⟩
    simp only [List.length_singleton]
    omega
  · simp only [if_neg isLast] at reads ⊢
    obtain ⟨chars, digits, tail, rfl, length, areDigits, ends⟩ := reads
    refine
      ⟨trivial, char :: chars, digit :: digits, tail, rfl, ?_,
        .cons hexDigit areDigits, ends⟩
    rw [List.length_cons, length]
    omega

theorem reads_of_stepWord
    {letters : List Char} {before : List Token} {char : Char} {scan : Scan}
    (stepped : (Scan.mk (.word letters) before).step char = some scan)
    (reads : scan.mode.Reads tokens text) :
    ∃ more,
      scan.tokens.reverse ++ tokens = before.reverse ++ more ∧
        (Mode.word letters).Reads more (char :: text) := by
  simp only [Scan.step] at stepped
  split at stepped
  case isTrue =>
    cases stepped
    obtain ⟨tail, behind, token, others, rfl, isWord, rfl, laidOut⟩ := reads
    refine
      ⟨_, rfl, char :: tail, behind, token, others, rfl, ?_, rfl, laidOut⟩
    simpa using isWord
  case isFalse =>
    obtain ⟨token, isWord, stepped⟩ := Option.bind_eq_some_iff.mp stepped
    obtain ⟨more, sameTokens, laidOut⟩ := layout_of_stepGap stepped reads
    refine ⟨token :: more, by simp [sameTokens], ?_⟩
    refine ⟨[], char :: text, token, more, rfl, ?_, rfl, laidOut⟩
    simpa using isWord

theorem reads_of_stepNumber
    {part : NumberPart} {digits : List Char} {before : List Token}
    {char : Char} {scan : Scan}
    (stepped : (Scan.mk (.number part digits) before).step char = some scan)
    (reads : scan.mode.Reads tokens text) :
    ∃ more,
      scan.tokens.reverse ++ tokens = before.reverse ++ more ∧
        (Mode.number part digits).Reads more (char :: text) := by
  simp only [Scan.step] at stepped
  split at stepped
  case h_1 next isNext =>
    cases stepped
    obtain ⟨tail, behind, others, rfl, rest, rfl, laidOut⟩ := reads
    refine ⟨_, rfl, char :: tail, behind, others, rfl, ?_, by simp, laidOut⟩
    exact (NumberPart.rest_cons part).mpr ⟨next, isNext, rest⟩
  case h_2 =>
    split at stepped
    case isTrue complete =>
      obtain ⟨more, sameTokens, laidOut⟩ := layout_of_stepGap stepped reads
      refine ⟨.number digits.reverse :: more, by simp [sameTokens], ?_⟩
      exact
        ⟨[], char :: text, more, rfl,
          (NumberPart.rest_nil part).mpr complete, by simp, laidOut⟩
    case isFalse => cases stepped

theorem reads_of_finish
    {scan : Scan} (finished : scan.finish = some tokens) :
    ∃ more,
      tokens = scan.tokens.reverse ++ more ∧ scan.mode.Reads more [] := by
  obtain ⟨mode, before⟩ := scan
  cases mode with
  | gap =>
      cases finished
      exact ⟨[], by simp, .done⟩
  | word letters =>
      obtain ⟨token, isWord, rfl⟩ := Option.map_eq_some_iff.mp finished
      refine ⟨[token], by simp, [], [], token, [], rfl, ?_, rfl, .done⟩
      simpa using isWord
  | number part digits =>
      simp only [Scan.finish] at finished
      split at finished
      case isTrue complete =>
        cases finished
        refine ⟨[.number digits.reverse], by simp, [], [], [], rfl, ?_, by simp, .done⟩
        exact (NumberPart.rest_nil part).mpr complete
      case isFalse => cases finished
  | text units => cases finished
  | escape units => cases finished
  | code units missing value => cases finished

end

/-- The tokens that the machine reads are laid out by the text. -/
theorem reads_of_read?
    {scan : Scan} {text : List Char} {tokens : List Token}
    (found : scan.read? text = some tokens) :
    ∃ more,
      tokens = scan.tokens.reverse ++ more ∧ scan.mode.Reads more text := by
  induction text generalizing scan with
  | nil => exact reads_of_finish found
  | cons char text inductionHypothesis =>
      rw [Scan.read?_cons] at found
      obtain ⟨later, stepped, found⟩ := Option.bind_eq_some_iff.mp found
      obtain ⟨tokens, rfl, reads⟩ := inductionHypothesis found
      obtain ⟨mode, before⟩ := scan
      cases mode with
      | gap => exact layout_of_stepGap stepped reads
      | word letters => exact reads_of_stepWord stepped reads
      | number part digits => exact reads_of_stepNumber stepped reads
      | text units => exact endsString_of_stepText stepped reads
      | escape units =>
          obtain ⟨rfl, ends⟩ := endsString_of_stepEscape stepped reads
          exact ⟨tokens, rfl, ends⟩
      | code units missing value =>
          obtain ⟨rfl, readsCode⟩ := reads_of_stepCode stepped reads
          exact ⟨tokens, rfl, readsCode⟩

/-! ## What is laid out is read -/

namespace Token

/-- Whether a token is one of the six structural characters. -/
def isMark : Token → Bool
  | .openArray | .closeArray | .openObject | .closeObject | .comma | .colon =>
      true
  | _ => false

end Token

/-- Whether of any two neighbours one is a structural character. -/
def Separated (tokens : List Token) : Prop :=
  tokens.IsChain fun left right => left.isMark = true ∨ right.isMark = true

/-- The characters that end a word or a number and belong to what follows. -/
def delimiters : List Char :=
  blanks ++ ['[', ']', '\x7b', '\x7d', ',', ':']

def Stops (text : List Char) : Prop :=
  ∀ char ∈ text.head?, char ∈ delimiters

theorem next?_of_mem_delimiters
    {char : Char} (delimits : char ∈ delimiters) (part : NumberPart) :
    part.next? char = none := by
  have ended :
      (delimiters.all fun char => decide (part.next? char = none)) = true := by
    cases part <;> decide
  exact of_decide_eq_true (List.all_eq_true.mp ended char delimits)

theorem not_isLower_of_mem_delimiters
    {char : Char} (delimits : char ∈ delimiters) : char.isLower = false := by
  have noLower : delimiters.any Char.isLower = false := by decide
  exact Bool.eq_false_iff.mpr (List.any_eq_false.mp noLower char delimits)

theorem stops_append_of_layout
    {tokens : List Token} {text rest : List Char}
    (laidOut : Layout tokens text)
    (marked : ∀ token ∈ tokens.head?, token.isMark = true)
    (atEnd : tokens = [] → Stops rest) :
    Stops (text ++ rest) := by
  cases laidOut with
  | done => exact atEnd rfl
  | blank isBlank =>
      intro char isFirst
      cases isFirst
      exact List.mem_append_left _ isBlank
  | @token token chars _ _ written =>
      have isMark : token.isMark = true := marked token rfl
      intro char isFirst
      cases token <;> cases isMark <;> cases written <;> cases isFirst <;> decide

namespace Scan

variable {before : List Token} {rest : List Char}

theorem read?_gap_blank {char : Char} (isBlank : char ∈ blanks) :
    (Scan.mk .gap before).read? (char :: rest) =
      (Scan.mk .gap before).read? rest := by
  rw [read?_cons, step, stepGap, if_pos ((isBlank_iff char).mpr isBlank)]
  rfl

/-- Where a word ends, the machine goes on as from between two tokens. -/
theorem read?_word
    {letters : List Char} {token : Token} (stops : Stops rest)
    (isWord : word? letters.reverse = some token) :
    (Scan.mk (.word letters) before).read? rest =
      (Scan.mk .gap (token :: before)).read? rest := by
  cases rest with
  | nil => simp [read?, finish, isWord]
  | cons char rest =>
      have notLower := not_isLower_of_mem_delimiters (stops char rfl)
      simp [read?_cons, step, notLower, isWord]

theorem word?_null : word? ['l', 'l', 'u', 'n'].reverse = some .null :=
  rfl

theorem word?_true :
    word? ['e', 'u', 'r', 't'].reverse = some (.truth true) :=
  rfl

theorem word?_false :
    word? ['e', 's', 'l', 'a', 'f'].reverse = some (.truth false) :=
  rfl

theorem read?_number
    {part : NumberPart} {digits : List Char} (stops : Stops rest)
    (complete : part.complete = true) :
    (Scan.mk (.number part digits) before).read? rest =
      (Scan.mk .gap (.number digits.reverse :: before)).read? rest := by
  cases rest with
  | nil => simp [read?, finish, complete]
  | cons char rest =>
      have noNext := next?_of_mem_delimiters (stops char rfl) part
      simp [read?_cons, step, noNext, complete]

/-- A number is read to its end. -/
theorem read?_restOfNumber
    {part : NumberPart} {digits tail : List Char} (stops : Stops rest)
    (isRest : part.Rest tail) :
    (Scan.mk (.number part digits) before).read? (tail ++ rest) =
      (Scan.mk .gap (.number (digits.reverse ++ tail) :: before)).read?
        rest := by
  induction tail generalizing part digits with
  | nil =>
      have complete := (NumberPart.rest_nil part).mp isRest
      simp [read?_number stops complete]
  | cons char tail inductionHypothesis =>
      obtain ⟨next, isNext, isRest⟩ := (NumberPart.rest_cons part).mp isRest
      rw [List.cons_append, read?_cons]
      simp only [step, isNext, Option.bind_some]
      rw [inductionHypothesis isRest]
      simp

theorem read?_code
    (units : List Nat) (value : Nat) (before : List Token) (rest : List Char)
    {chars : List Char} {digits : List Nat} {missing : Nat}
    (length : chars.length = missing + 1)
    (areDigits : List.Forall₂ IsHexDigit chars digits) :
    (Scan.mk (.code units (missing + 1) value) before).read? (chars ++ rest) =
      (Scan.mk (.text (hexNumber value digits :: units)) before).read? rest := by
  induction areDigits generalizing missing value with
  | nil => cases length
  | @cons char digit chars digits isDigit areDigits inductionHypothesis =>
      have found := (hexValue?_eq_some_iff char digit).mpr isDigit
      rw [List.cons_append, read?_cons]
      cases missing with
      | zero =>
          obtain rfl : chars = [] := by simpa using length
          cases areDigits
          simp [step, stepCode, found, hexNumber]
      | succ missing =>
          have shorter : chars.length = missing + 1 := by simpa using length
          simp [step, stepCode, found, inductionHypothesis _ shorter, hexNumber]

/-- The contents of a string are read to the quotation mark behind them. -/
theorem read?_contents
    {units further : List Nat} {contents : List Char}
    (areContents : Contents further contents) :
    (Scan.mk (.text units) before).read? (contents ++ '"' :: rest) =
      (Scan.mk .gap (.text (units.reverse ++ further) :: before)).read?
        rest := by
  induction areContents generalizing units with
  | nil => simp [read?_cons, step, stepText]
  | @plain char _ _ notQuote notBackslash notControl _ inductionHypothesis =>
      have printable : ¬ char.toNat < 0x20 := Nat.not_lt.mpr notControl
      rw [List.cons_append, read?_cons]
      simp [step, stepText, notQuote, notBackslash, printable,
        inductionHypothesis]
  | @escape letter unit _ _ inTable _ inductionHypothesis =>
      have found := (escape?_eq_some_iff letter unit).mpr inTable
      have notCode : letter ≠ 'u' := by
        rintro rfl
        revert inTable
        simp [escapes]
      simp [read?_cons, step, stepText, stepEscape, notCode, found,
        inductionHypothesis]
  | @code chars digits _ text areDigits fourChars _ inductionHypothesis =>
      have read := read?_code units 0 before (text ++ '"' :: rest) fourChars areDigits
      simp [read?_cons, step, stepText, stepEscape, read, inductionHypothesis]

theorem stepGap_of_first?
    {char : Char} {part : NumberPart}
    (first : NumberPart.first? char = some part) :
    stepGap before char = some ⟨.number part [char], before⟩ := by
  have starts : char = '-' ∨ char.isDigit = true := by
    unfold NumberPart.first? at first
    by_cases isMinus : char = '-'
    · exact .inl isMinus
    · by_cases isDigit : char.isDigit = true
      · exact .inr isDigit
      · have notZero : char ≠ '0' := by
          rintro rfl
          exact isDigit rfl
        simp [isMinus, notZero, isDigit] at first
  have noOther :
      isBlank char = false ∧ char ≠ '"' ∧ char.isLower = false := by
    obtain rfl | isDigit := starts
    · decide
    · refine ⟨?_, ?_, ?_⟩
      · rw [Bool.eq_false_iff, ne_eq, isBlank_iff]
        intro inside
        have noDigit : blanks.any Char.isDigit = false := by decide
        exact List.any_eq_false.mp noDigit char inside isDigit
      · rintro rfl
        cases isDigit
      · rw [isDigit_iff] at isDigit
        rw [Bool.eq_false_iff, ne_eq, isLower_iff]
        omega
  obtain ⟨notBlank, notQuote, notLower⟩ := noOther
  simp [stepGap, notBlank, notQuote, notLower, first]

/-- A written token is read, if what follows cannot go on with it. -/
theorem read?_writtenAs
    {token : Token} {chars : List Char} (written : token.WrittenAs chars)
    (stops : token.isMark = false → Stops rest) :
    (Scan.mk .gap before).read? (chars ++ rest) =
      (Scan.mk .gap (token :: before)).read? rest := by
  cases token with
  | null =>
      cases written
      rw [← read?_word (stops rfl) word?_null]
      rfl
  | truth value =>
      cases value <;> cases written
      · rw [← read?_word (stops rfl) word?_false]
        rfl
      · rw [← read?_word (stops rfl) word?_true]
        rfl
  | number digits =>
      obtain ⟨rfl, isNumber⟩ := written
      cases chars with
      | nil => exact absurd isNumber NumberPart.not_isNumber_nil
      | cons char tail =>
          obtain ⟨part, first, isRest⟩ := NumberPart.isNumber_cons.mp isNumber
          rw [List.cons_append, read?_cons, step, stepGap_of_first? first,
            Option.bind_some, read?_restOfNumber (stops rfl) isRest]
          rfl
  | text units =>
      obtain ⟨contents, rfl, areContents⟩ := written
      have read :
          (Scan.mk (.text []) before).read? (contents ++ '"' :: rest) =
            (Scan.mk .gap (.text units :: before)).read? rest :=
        read?_contents areContents
      simpa [read?_cons, step, stepGap, isBlank] using read
  | _ =>
      cases written
      rfl

/-- All tokens of a layout are read, if they are separated and if what follows cannot
go on with the last of them. -/
theorem read?_of_layout
    {tokens : List Token} {text : List Char} (laidOut : Layout tokens text)
    (separated : Separated tokens)
    (stops : ∀ last ∈ tokens.getLast?, last.isMark = false → Stops rest) :
    (Scan.mk .gap before).read? (text ++ rest) =
      (Scan.mk .gap (tokens.reverse ++ before)).read? rest := by
  induction laidOut generalizing before with
  | done => rfl
  | blank isBlank _ inductionHypothesis =>
      rw [List.cons_append, read?_gap_blank isBlank,
        inductionHypothesis separated stops]
  | @token token chars tokens text written laidOut inductionHypothesis =>
      obtain ⟨neighbour, separated⟩ := List.isChain_cons.mp separated
      have behind : token.isMark = false → Stops (text ++ rest) := by
        intro noMark
        refine stops_append_of_layout laidOut ?_ ?_
        · intro next isNext
          simpa [noMark] using neighbour next isNext
        · rintro rfl
          exact stops token rfl noMark
      have later : ∀ last ∈ tokens.getLast?, last.isMark = false → Stops rest := by
        intro last isLast
        refine stops last ?_
        cases tokens with
        | nil => cases isLast
        | cons => simpa [List.getLast?_cons_cons] using isLast
      rw [List.append_assoc, read?_writtenAs written behind,
        inductionHypothesis separated later]
      simp

end Scan

theorem layout_of_ofText?
    {text : List Char} {tokens : List Token}
    (found : Token.ofText? text = some tokens) : Layout tokens text := by
  obtain ⟨more, rfl, laidOut⟩ := reads_of_read? found
  exact laidOut

theorem ofText?_of_layout
    {text : List Char} {tokens : List Token}
    (laidOut : Layout tokens text) (separated : Separated tokens) :
    Token.ofText? text = some tokens := by
  have read :
      (Scan.mk .gap []).read? (text ++ []) =
        (Scan.mk .gap (tokens.reverse ++ [])).read? [] :=
    Scan.read?_of_layout laidOut separated (by simp [Stops])
  rw [List.append_nil, List.append_nil] at read
  rw [ofText?_eq_read?, Scan.start, read]
  simp [Scan.read?, Scan.finish]

/-! ## Ways to write any characters -/

theorem hexNumber_div_mod (value : Nat) :
    hexNumber 0 [0, 0, value / 16, value % 16] = value := by
  simp only [hexNumber, List.foldl_cons, List.foldl_nil]
  omega

/-- Some contents of a string stand for any characters. -/
theorem exists_contents (chars : List Char) :
    ∃ contents, Contents (chars.map Char.toNat) contents := by
  induction chars with
  | nil => exact ⟨[], .nil⟩
  | cons char chars inductionHypothesis =>
      obtain ⟨contents, areContents⟩ := inductionHypothesis
      rw [List.map_cons]
      by_cases isQuote : char = '"'
      · have inTable : ('"', '"'.toNat) ∈ escapes := by decide
        subst isQuote
        exact ⟨_, .escape inTable areContents⟩
      by_cases isBackslash : char = '\\'
      · have inTable : ('\\', '\\'.toNat) ∈ escapes := by decide
        subst isBackslash
        exact ⟨_, .escape inTable areContents⟩
      by_cases isControl : char.toNat < 0x20
      · have areDigits :
            List.Forall₂ IsHexDigit
              ([0, 0, char.toNat / 16, char.toNat % 16].map Text.digitChar)
              [0, 0, char.toNat / 16, char.toNat % 16] := by
          simp only [List.forall₂_map_left_iff, List.forall₂_same]
          intro digit inside
          refine ⟨?_, .inl rfl⟩
          simp only [List.mem_cons, List.not_mem_nil, or_false] at inside
          omega
        have written := Contents.code areDigits rfl areContents
        rw [hexNumber_div_mod] at written
        exact ⟨_, written⟩
      · exact ⟨_, .plain isQuote isBackslash (Nat.not_lt.mp isControl) areContents⟩

/-! ## Units in a text -/

theorem hexNumber_lt
    {chars : List Char} {digits : List Nat}
    (areDigits : List.Forall₂ IsHexDigit chars digits) (value : Nat) :
    hexNumber value digits < (value + 1) * 16 ^ chars.length := by
  induction areDigits generalizing value with
  | nil => simp [hexNumber]
  | @cons char digit chars digits isDigit _ inductionHypothesis =>
      have small := isDigit.1
      calc
        hexNumber value (digit :: digits)
            = hexNumber (value * 16 + digit) digits := rfl
        _ < (value * 16 + digit + 1) * 16 ^ chars.length :=
            inductionHypothesis _
        _ ≤ ((value + 1) * 16) * 16 ^ chars.length :=
            Nat.mul_le_mul_right _ (by omega)
        _ = (value + 1) * 16 ^ (char :: chars).length := by
            rw [List.length_cons, Nat.pow_succ', Nat.mul_assoc]

open Text.Units (InRange)

theorem inRange_of_contents
    {units : List Nat} {contents : List Char}
    (areContents : Contents units contents) : InRange units := by
  induction areContents with
  | nil => exact List.forall_mem_nil _
  | @plain char _ _ _ _ _ _ inductionHypothesis =>
      have valid : char.toNat < 0xD800 ∨ _ ∧ char.toNat < 0x110000 :=
        char.valid
      exact List.forall_mem_cons.mpr ⟨by omega, inductionHypothesis⟩
  | @escape letter unit _ _ inTable _ inductionHypothesis =>
      have small : ∀ entry ∈ escapes, entry.2 < 0x110000 := by decide
      exact
        List.forall_mem_cons.mpr ⟨small _ inTable, inductionHypothesis⟩
  | code areDigits fourChars _ inductionHypothesis =>
      have small := hexNumber_lt areDigits 0
      rw [fourChars] at small
      exact List.forall_mem_cons.mpr ⟨by omega, inductionHypothesis⟩

/-- The units of a string in a text are code points. -/
theorem inRange_of_layout
    {tokens : List Token} {text : List Char} {units : List Nat}
    (laidOut : Layout tokens text) (inside : .text units ∈ tokens) :
    InRange units := by
  induction laidOut with
  | done => cases inside
  | blank _ _ inductionHypothesis => exact inductionHypothesis inside
  | token written _ inductionHypothesis =>
      obtain rfl | inRest := List.mem_cons.mp inside
      · obtain ⟨contents, _, areContents⟩ := written
        exact inRange_of_contents areContents
      · exact inductionHypothesis inRest

end ChipEight.Json
