import ChipEight.Json.Token

/-!
# Numbers of JSON

A number is a sign, a whole part, a fraction and an exponent, of which all but the whole
part may be absent.  The whole part has no zero in front, unless it is just a zero.

The machine that reads numbers character by character accepts exactly these: what it
still accepts in each of its states is what is missing of a number.
-/

namespace ChipEight.Json

/-! ## The parts of a number -/

def AllDigits (text : List Char) : Prop :=
  ∀ char ∈ text, char.isDigit = true

def SomeDigits (text : List Char) : Prop :=
  text ≠ [] ∧ AllDigits text

def IsWhole (text : List Char) : Prop :=
  text = ['0'] ∨
    ∃ first rest,
      text = first :: rest ∧
        first ≠ '0' ∧ first.isDigit = true ∧ AllDigits rest

def IsFraction (text : List Char) : Prop :=
  text = [] ∨ ∃ digits, text = '.' :: digits ∧ SomeDigits digits

def IsExponent (text : List Char) : Prop :=
  text = [] ∨
    ∃ mark sign digits,
      text = mark :: (sign ++ digits) ∧
        (mark = 'e' ∨ mark = 'E') ∧
          (sign = [] ∨ sign = ['+'] ∨ sign = ['-']) ∧ SomeDigits digits

/-- Whether a text is a number of JSON. -/
def IsNumber (text : List Char) : Prop :=
  ∃ sign whole fraction exponent,
    text = sign ++ (whole ++ (fraction ++ exponent)) ∧
      (sign = [] ∨ sign = ['-']) ∧
        IsWhole whole ∧ IsFraction fraction ∧ IsExponent exponent

/-! ## What is missing of a number -/

/-- Any digits and something behind them. -/
def DigitsThen (behind : List Char → Prop) (text : List Char) : Prop :=
  ∃ digits rest, text = digits ++ rest ∧ AllDigits digits ∧ behind rest

/-- A fraction and an exponent, each of which may be absent. -/
def IsTail (text : List Char) : Prop :=
  ∃ fraction exponent,
    text = fraction ++ exponent ∧ IsFraction fraction ∧ IsExponent exponent

/-- What may follow when some of a number has been read. -/
def NumberPart.Rest : NumberPart → List Char → Prop
  | .sign => fun text =>
      ∃ whole rest, text = whole ++ rest ∧ IsWhole whole ∧ IsTail rest
  | .zero => IsTail
  | .whole => DigitsThen IsTail
  | .point => fun text =>
      ∃ digits rest, text = digits ++ rest ∧ SomeDigits digits ∧ IsExponent rest
  | .fraction => DigitsThen IsExponent
  | .mark => fun text =>
      ∃ sign digits,
        text = sign ++ digits ∧
          (sign = [] ∨ sign = ['+'] ∨ sign = ['-']) ∧ SomeDigits digits
  | .exponentSign => SomeDigits
  | .exponent => AllDigits

section

variable {behind : List Char → Prop} {char : Char} {text : List Char}

theorem allDigits_cons :
    AllDigits (char :: text) ↔ char.isDigit = true ∧ AllDigits text :=
  List.forall_mem_cons

theorem someDigits_cons :
    SomeDigits (char :: text) ↔ char.isDigit = true ∧ AllDigits text := by
  simp [SomeDigits, allDigits_cons]

theorem digitsThen_of_behind (isBehind : behind text) :
    DigitsThen behind text :=
  ⟨[], text, rfl, List.forall_mem_nil _, isBehind⟩

theorem digitsThen_cons :
    DigitsThen behind (char :: text) ↔
      behind (char :: text) ∨
        char.isDigit = true ∧ DigitsThen behind text := by
  constructor
  · rintro ⟨digits, rest, isText, areDigits, isBehind⟩
    cases digits with
    | nil => exact .inl (isText ▸ isBehind)
    | cons first others =>
        obtain ⟨rfl, rfl⟩ := List.cons.inj isText
        obtain ⟨isDigit, othersDigits⟩ := allDigits_cons.mp areDigits
        exact .inr ⟨isDigit, others, rest, rfl, othersDigits, isBehind⟩
  · rintro (isBehind | ⟨isDigit, digits, rest, rfl, areDigits, isBehind⟩)
    · exact digitsThen_of_behind isBehind
    · exact
        ⟨char :: digits, rest, rfl, allDigits_cons.mpr ⟨isDigit, areDigits⟩,
          isBehind⟩

theorem isExponent_nil : IsExponent [] :=
  .inl rfl

theorem isExponent_cons :
    IsExponent (char :: text) ↔
      (char = 'e' ∨ char = 'E') ∧ NumberPart.mark.Rest text := by
  simp only [IsExponent, NumberPart.Rest, reduceCtorEq, false_or,
    List.cons.injEq]
  grind

theorem isTail_nil : IsTail [] :=
  ⟨[], [], rfl, .inl rfl, isExponent_nil⟩

theorem isTail_cons :
    IsTail (char :: text) ↔
      (char = '.' ∧ NumberPart.point.Rest text) ∨
        (char = 'e' ∨ char = 'E') ∧ NumberPart.mark.Rest text := by
  rw [← isExponent_cons]
  constructor
  · rintro ⟨fraction, exponent, isText, rfl | ⟨digits, rfl, areDigits⟩, isExponent⟩
    · rw [List.nil_append] at isText
      exact .inr (isText ▸ isExponent)
    · obtain ⟨rfl, rfl⟩ := List.cons.inj isText
      exact .inl ⟨rfl, digits, exponent, rfl, areDigits, isExponent⟩
  · rintro (⟨rfl, digits, rest, rfl, areDigits, isExponent⟩ | isExponent)
    · exact ⟨'.' :: digits, rest, rfl, .inr ⟨digits, rfl, areDigits⟩, isExponent⟩
    · exact ⟨[], char :: text, rfl, .inl rfl, isExponent⟩

end

namespace NumberPart

variable {char : Char} {text : List Char}

/-- Whether a machine that takes a character to some part would accept the rest. -/
def Leads (part? : Option NumberPart) (text : List Char) : Prop :=
  ∃ part, part? = some part ∧ part.Rest text

@[simp]
theorem leads_some {part : NumberPart} :
    Leads (some part) text ↔ part.Rest text := by
  simp [Leads]

@[simp]
theorem leads_none : ¬ Leads none text := by
  simp [Leads]

theorem leads_behindDigits? :
    Leads (behindDigits? char) text ↔ IsTail (char :: text) := by
  rw [isTail_cons, behindDigits?]
  by_cases isPoint : char = '.'
  · simp [isPoint]
  · by_cases isMark : char = 'e' ∨ char = 'E' <;> simp [isPoint, isMark]

theorem restOfSign_cons :
    sign.Rest (char :: text) ↔
      (char = '0' ∧ IsTail text) ∨
        char ≠ '0' ∧ char.isDigit = true ∧ DigitsThen IsTail text := by
  constructor
  · rintro ⟨whole, rest, isText, rfl | ⟨first, others, rfl, notZero, isDigit, digits⟩,
      isTail⟩
    · obtain ⟨rfl, rfl⟩ := List.cons.inj isText
      exact .inl ⟨rfl, isTail⟩
    · obtain ⟨rfl, rfl⟩ := List.cons.inj isText
      exact .inr ⟨notZero, isDigit, others, rest, rfl, digits, isTail⟩
  · rintro (⟨rfl, isTail⟩ |
      ⟨notZero, isDigit, others, rest, rfl, digits, isTail⟩)
    · exact ⟨['0'], text, rfl, .inl rfl, isTail⟩
    · exact
        ⟨char :: others, rest, rfl,
          .inr ⟨char, others, rfl, notZero, isDigit, digits⟩, isTail⟩

theorem restOfPoint_cons :
    point.Rest (char :: text) ↔
      char.isDigit = true ∧ DigitsThen IsExponent text := by
  constructor
  · rintro ⟨_ | ⟨first, others⟩, rest, isText, areDigits, isExponent⟩
    · exact absurd rfl areDigits.1
    · obtain ⟨rfl, rfl⟩ := List.cons.inj isText
      obtain ⟨isDigit, digits⟩ := someDigits_cons.mp areDigits
      exact ⟨isDigit, others, rest, rfl, digits, isExponent⟩
  · rintro ⟨isDigit, others, rest, rfl, digits, isExponent⟩
    exact
      ⟨char :: others, rest, rfl, someDigits_cons.mpr ⟨isDigit, digits⟩,
        isExponent⟩

theorem restOfMark_cons :
    mark.Rest (char :: text) ↔
      (char = '+' ∨ char = '-') ∧ SomeDigits text ∨
        SomeDigits (char :: text) := by
  constructor
  · rintro ⟨sign, digits, isText, rfl | rfl | rfl, areDigits⟩
    · exact .inr (isText ▸ areDigits)
    · obtain ⟨rfl, rfl⟩ := List.cons.inj isText
      exact .inl ⟨.inl rfl, areDigits⟩
    · obtain ⟨rfl, rfl⟩ := List.cons.inj isText
      exact .inl ⟨.inr rfl, areDigits⟩
  · rintro (⟨rfl | rfl, areDigits⟩ | areDigits)
    · exact ⟨['+'], text, rfl, .inr (.inl rfl), areDigits⟩
    · exact ⟨['-'], text, rfl, .inr (.inr rfl), areDigits⟩
    · exact ⟨[], char :: text, rfl, .inl rfl, areDigits⟩

theorem not_isTail_of_isDigit (isDigit : char.isDigit = true) :
    ¬ IsTail (char :: text) := by
  rw [isTail_cons]
  rintro (⟨rfl, _⟩ | ⟨rfl | rfl, _⟩) <;> cases isDigit

/-- What is missing behind a character is what the machine accepts behind it. -/
theorem rest_cons (part : NumberPart) :
    part.Rest (char :: text) ↔ Leads (part.next? char) text := by
  cases part with
  | sign =>
      rw [next?, restOfSign_cons]
      by_cases isZero : char = '0'
      · simp [isZero, Rest]
      · by_cases isDigit : char.isDigit = true <;>
          simp [isZero, isDigit, Rest]
  | zero => rw [next?, leads_behindDigits?, Rest]
  | whole =>
      rw [next?, Rest, digitsThen_cons]
      by_cases isDigit : char.isDigit = true
      · simp [isDigit, not_isTail_of_isDigit, Rest]
      · simp [isDigit, leads_behindDigits?]
  | point =>
      rw [next?, restOfPoint_cons]
      by_cases isDigit : char.isDigit = true <;> simp [isDigit, Rest]
  | fraction =>
      rw [next?, Rest, digitsThen_cons, isExponent_cons]
      by_cases isDigit : char.isDigit = true
      · have noMark : ¬ (char = 'e' ∨ char = 'E') := by
          rintro (rfl | rfl) <;> cases isDigit
        simp [isDigit, noMark, Rest]
      · by_cases isMark : char = 'e' ∨ char = 'E' <;> simp [isDigit, isMark]
  | mark =>
      rw [next?, restOfMark_cons, someDigits_cons]
      by_cases isSign : char = '+' ∨ char = '-'
      · have noDigit : char.isDigit = false := by
          obtain rfl | rfl := isSign <;> rfl
        simp [isSign, noDigit, Rest]
      · by_cases isDigit : char.isDigit = true <;>
          simp [isSign, isDigit, Rest]
  | exponentSign =>
      rw [next?, Rest, someDigits_cons]
      by_cases isDigit : char.isDigit = true <;> simp [isDigit, Rest]
  | exponent =>
      rw [next?, Rest, allDigits_cons]
      by_cases isDigit : char.isDigit = true <;> simp [isDigit, Rest]

theorem rest_nil (part : NumberPart) :
    part.Rest [] ↔ part.complete = true := by
  cases part with
  | sign => simp [Rest, complete, IsWhole]
  | zero => simp [Rest, complete, isTail_nil]
  | whole => simp [Rest, complete, digitsThen_of_behind isTail_nil]
  | point => simp [Rest, complete, SomeDigits]
  | fraction => simp [Rest, complete, digitsThen_of_behind isExponent_nil]
  | mark => simp [Rest, complete, SomeDigits]
  | exponentSign => simp [Rest, complete, SomeDigits]
  | exponent => simp [Rest, complete, AllDigits]

theorem not_isNumber_nil : ¬ IsNumber [] := by
  rintro ⟨sign, whole, fraction, exponent, isText, _, isWhole, _, _⟩
  have noWhole : whole = [] := by simp_all
  obtain rfl | ⟨first, rest, rfl, _⟩ := isWhole <;> cases noWhole

/-- A number is a first character and what the machine accepts behind it. -/
theorem isNumber_cons :
    IsNumber (char :: text) ↔ Leads (first? char) text := by
  have unsigned :
      IsNumber (char :: text) ↔
        (char = '-' ∧ sign.Rest text) ∨ sign.Rest (char :: text) := by
    constructor
    · rintro ⟨sign, whole, fraction, exponent, isText, rfl | rfl, isWhole,
        isFraction, isExponent⟩
      · exact
          .inr ⟨whole, _, isText, isWhole, fraction, exponent, rfl,
            isFraction, isExponent⟩
      · obtain ⟨rfl, rfl⟩ := List.cons.inj isText
        exact
          .inl ⟨rfl, whole, _, rfl, isWhole, fraction, exponent, rfl,
            isFraction, isExponent⟩
    · rintro (⟨rfl, whole, _, rfl, isWhole, fraction, exponent, rfl,
          isFraction, isExponent⟩ |
        ⟨whole, _, isText, isWhole, fraction, exponent, rfl, isFraction,
          isExponent⟩)
      · exact
          ⟨['-'], whole, fraction, exponent, rfl, .inr rfl, isWhole,
            isFraction, isExponent⟩
      · exact
          ⟨[], whole, fraction, exponent, isText, .inl rfl, isWhole,
            isFraction, isExponent⟩
  rw [unsigned, rest_cons, first?]
  by_cases isMinus : char = '-'
  · simp [isMinus, next?, Char.isDigit]
  · simp [isMinus, next?]

end NumberPart

end ChipEight.Json
