import ChipEight.Json.Value
import ChipEight.Proofs.Json.Layout

/-!
# Texts of values

A value has its tokens: an array those of its items, with commas between them and
brackets around them, and an object those of its members, each a key, a colon and a
value.  A text is a way to write a value if it lays out these tokens.

The machine that puts values together reads from a text the value that it is a way to
write, and nothing from any other text.  So no text is a way to write two values.
-/

namespace ChipEight.Json

/-! ## The tokens of a value -/

mutual

def Value.tokens : Value → List Token
  | .null => [.null]
  | .truth value => [.truth value]
  | .number digits => [.number digits]
  | .text units => [.text units]
  | .array items => .openArray :: (itemsTokens items ++ [.closeArray])
  | .object members => .openObject :: (membersTokens members ++ [.closeObject])

def itemsTokens : List Value → List Token
  | [] => []
  | item :: items => item.tokens ++ furtherItems items

/-- The tokens of items that stand behind another one. -/
def furtherItems : List Value → List Token
  | [] => []
  | item :: items => .comma :: (item.tokens ++ furtherItems items)

def memberTokens : List Nat × Value → List Token
  | (key, value) => .text key :: .colon :: value.tokens

def membersTokens : List (List Nat × Value) → List Token
  | [] => []
  | member :: members => memberTokens member ++ furtherMembers members

/-- The tokens of members that stand behind another one. -/
def furtherMembers : List (List Nat × Value) → List Token
  | [] => []
  | member :: members =>
      .comma :: (memberTokens member ++ furtherMembers members)

end

/-- Some parts with commas between them. -/
def joined : List (List Token) → List Token
  | [] => []
  | part :: parts => part ++ parts.flatMap (Token.comma :: ·)

theorem mem_joined
    {token : Token} {part : List Token} {parts : List (List Token)}
    (inParts : part ∈ parts) (inPart : token ∈ part) : token ∈ joined parts := by
  cases parts with
  | nil => cases inParts
  | cons first parts =>
      rw [joined, List.mem_append]
      obtain rfl | inRest := List.mem_cons.mp inParts
      · exact .inl inPart
      · exact
          .inr (List.mem_flatMap.mpr ⟨part, inRest, List.mem_cons_of_mem _ inPart⟩)

theorem furtherItems_eq (items : List Value) :
    furtherItems items =
      (items.map Value.tokens).flatMap (Token.comma :: ·) := by
  induction items with
  | nil => rfl
  | cons item items inductionHypothesis =>
      rw [furtherItems, inductionHypothesis, List.map_cons, List.flatMap_cons,
        List.cons_append]

theorem furtherMembers_eq (members : List (List Nat × Value)) :
    furtherMembers members =
      (members.map memberTokens).flatMap (Token.comma :: ·) := by
  induction members with
  | nil => rfl
  | cons member members inductionHypothesis =>
      rw [furtherMembers, inductionHypothesis, List.map_cons, List.flatMap_cons,
        List.cons_append]

theorem tokens_array (items : List Value) :
    (Value.array items).tokens =
      .openArray :: (joined (items.map Value.tokens) ++ [.closeArray]) := by
  cases items with
  | nil => rfl
  | cons item items =>
      rw [Value.tokens, itemsTokens, furtherItems_eq, List.map_cons, joined]

theorem tokens_object (members : List (List Nat × Value)) :
    (Value.object members).tokens =
      .openObject :: (joined (members.map memberTokens) ++ [.closeObject]) := by
  cases members with
  | nil => rfl
  | cons member members =>
      rw [Value.tokens, membersTokens, furtherMembers_eq, List.map_cons, joined]

theorem memberTokens_eq (member : List Nat × Value) :
    memberTokens member = .text member.1 :: .colon :: member.2.tokens := by
  obtain ⟨key, value⟩ := member
  rfl

section

variable {token : Token}

/-- An array has the tokens of its items. -/
theorem mem_tokens_array
    {item : Value} {items : List Value}
    (inItems : item ∈ items) (inItem : token ∈ item.tokens) :
    token ∈ (Value.array items).tokens := by
  rw [tokens_array, List.mem_cons, List.mem_append]
  exact .inr (.inl (mem_joined (List.mem_map_of_mem inItems) inItem))

/-- An object has the tokens of its members. -/
theorem mem_tokens_object
    {member : List Nat × Value} {members : List (List Nat × Value)}
    (inMembers : member ∈ members) (inMember : token ∈ memberTokens member) :
    token ∈ (Value.object members).tokens := by
  rw [tokens_object, List.mem_cons, List.mem_append]
  exact .inr (.inl (mem_joined (List.mem_map_of_mem inMembers) inMember))

end

/-- Whether a text is a way to write a value. -/
def Value.WrittenAs (value : Value) (text : List Char) : Prop :=
  Layout value.tokens text

/-! ## Values that can be written -/

theorem exists_layout_flatMap
    {parts : List (List Token)}
    (writable : ∀ part ∈ parts, ∃ text, Layout part text) :
    ∃ text, Layout (parts.flatMap (Token.comma :: ·)) text := by
  induction parts with
  | nil => exact ⟨[], .done⟩
  | cons part parts inductionHypothesis =>
      obtain ⟨⟨text, laidOut⟩, writable⟩ := List.forall_mem_cons.mp writable
      obtain ⟨others, othersLaidOut⟩ := inductionHypothesis writable
      have comma : Token.comma.WrittenAs [','] := rfl
      exact ⟨_, .token comma (laidOut.append othersLaidOut)⟩

theorem exists_layout_joined
    {parts : List (List Token)}
    (writable : ∀ part ∈ parts, ∃ text, Layout part text) :
    ∃ text, Layout (joined parts) text := by
  cases parts with
  | nil => exact ⟨[], .done⟩
  | cons part parts =>
      obtain ⟨⟨text, laidOut⟩, writable⟩ := List.forall_mem_cons.mp writable
      obtain ⟨others, othersLaidOut⟩ := exists_layout_flatMap writable
      exact ⟨_, laidOut.append othersLaidOut⟩

/-- An array can be written if its items can. -/
theorem Value.exists_writtenAs_array
    {items : List Value}
    (writable : ∀ item ∈ items, ∃ text, item.WrittenAs text) :
    ∃ text, (array items).WrittenAs text := by
  obtain ⟨text, laidOut⟩ := exists_layout_joined (List.forall_mem_map.mpr writable)
  have opening : Token.openArray.WrittenAs ['['] := rfl
  have closing : Layout [.closeArray] [']'] := .single rfl
  have whole := Layout.token opening (laidOut.append closing)
  rw [← tokens_array] at whole
  exact ⟨_, whole⟩

/-- An object can be written if its members can. -/
theorem Value.exists_writtenAs_object
    {members : List (List Nat × Value)}
    (writable : ∀ member ∈ members, ∃ text, Layout (memberTokens member) text) :
    ∃ text, (object members).WrittenAs text := by
  obtain ⟨text, laidOut⟩ := exists_layout_joined (List.forall_mem_map.mpr writable)
  have opening : Token.openObject.WrittenAs ['\x7b'] := rfl
  have closing : Layout [.closeObject] ['\x7d'] := .single rfl
  have whole := Layout.token opening (laidOut.append closing)
  rw [← tokens_object] at whole
  exact ⟨_, whole⟩

/-- A member with two strings can be written, whatever they are. -/
theorem exists_layout_memberTokens (key text : List Char) :
    ∃ written,
      Layout
        (memberTokens (key.map Char.toNat, .text (text.map Char.toNat)))
        written := by
  obtain ⟨keyContents, areKeyContents⟩ := exists_contents key
  obtain ⟨contents, areContents⟩ := exists_contents text
  have isKey : (Token.text (key.map Char.toNat)).WrittenAs _ :=
    ⟨keyContents, rfl, areKeyContents⟩
  have isText : (Token.text (text.map Char.toNat)).WrittenAs _ :=
    ⟨contents, rfl, areContents⟩
  have colon : Token.colon.WrittenAs [':'] := rfl
  exact ⟨_, .token isKey (.token colon (.token isText .done))⟩

/-! ## What is read has the tokens of a value -/

/-- Whether tokens end all arrays and objects behind a value in the innermost of them,
and the whole is some value then. -/
def Closes : List Frame → Value → Value → List Token → Prop
  | [], value, whole, tokens => tokens = [] ∧ whole = value
  | .items before :: outer, value, whole, tokens =>
      ∃ items rest,
        tokens = furtherItems items ++ .closeArray :: rest ∧
          Closes outer (.array (before.reverse ++ value :: items)) whole rest
  | .keyed key before :: outer, value, whole, tokens =>
      ∃ members rest,
        tokens = furtherMembers members ++ .closeObject :: rest ∧
          Closes outer (.object (before.reverse ++ (key, value) :: members))
            whole rest
  | .members _ :: _, _, _, _ => False

def Begins
    (frames : List Frame) (whole : Value) (tokens : List Token) : Prop :=
  ∃ value rest, tokens = value.tokens ++ rest ∧ Closes frames value whole rest

def EndsInnermost (whole : Value) (tokens : List Token) : List Frame → Prop
  | .items before :: outer =>
      ∃ rest, tokens = .closeArray :: rest ∧
        Closes outer (.array before.reverse) whole rest
  | .members before :: outer =>
      ∃ rest, tokens = .closeObject :: rest ∧
        Closes outer (.object before.reverse) whole rest
  | _ => False

def BeginsMember (whole : Value) (tokens : List Token) : List Frame → Prop
  | .members before :: outer =>
      ∃ key rest, tokens = .text key :: .colon :: rest ∧
        Begins (.keyed key before :: outer) whole rest
  | _ => False

def GoesOn (whole : Value) (tokens : List Token) : List Frame → Prop
  | .items before :: outer =>
      ∃ items rest,
        tokens = furtherItems items ++ .closeArray :: rest ∧
          Closes outer (.array (before.reverse ++ items)) whole rest
  | .members before :: outer =>
      ∃ members rest,
        tokens = furtherMembers members ++ .closeObject :: rest ∧
          Closes outer (.object (before.reverse ++ members)) whole rest
  | _ => False

namespace Assembly

/-- What tokens are if the machine reads a value from them. -/
def Reads (whole : Value) (tokens : List Token) : Assembly → Prop
  | .complete value => tokens = [] ∧ whole = value
  | .inside frames .value => Begins frames whole tokens
  | .inside frames .valueOrEnd =>
      EndsInnermost whole tokens frames ∨ Begins frames whole tokens
  | .inside frames .key => BeginsMember whole tokens frames
  | .inside frames .keyOrEnd =>
      EndsInnermost whole tokens frames ∨ BeginsMember whole tokens frames
  | .inside frames .colon =>
      ∃ rest, tokens = .colon :: rest ∧ Begins frames whole rest
  | .inside frames .separator => GoesOn whole tokens frames

variable {frames : List Frame} {assembly later : Assembly} {value whole : Value}
  {token : Token} {tokens : List Token}

theorem closes_of_place
    (placed : place value frames = some later)
    (reads : later.Reads whole tokens) : Closes frames value whole tokens := by
  match frames with
  | [] =>
      cases placed
      exact reads
  | .items before :: outer =>
      cases placed
      obtain ⟨items, rest, rfl, closes⟩ := reads
      exact ⟨items, rest, rfl, by simpa using closes⟩
  | .keyed key before :: outer =>
      cases placed
      obtain ⟨members, rest, rfl, closes⟩ := reads
      exact ⟨members, rest, rfl, by simpa using closes⟩
  | .members before :: outer => cases placed

theorem begins_of_beginValue
    (begun : beginValue frames token = some later)
    (reads : later.Reads whole tokens) :
    Begins frames whole (token :: tokens) := by
  cases token with
  | openArray =>
      cases begun
      obtain ⟨rest, rfl, closes⟩ | ⟨item, _, rfl, items, rest, rfl, closes⟩ :=
        reads
      · exact ⟨.array [], rest, rfl, closes⟩
      · refine ⟨.array (item :: items), rest, ?_, closes⟩
        simp [Value.tokens, itemsTokens]
  | openObject =>
      cases begun
      obtain ⟨rest, rfl, closes⟩ |
        ⟨key, _, rfl, value, _, rfl, members, rest, rfl, closes⟩ := reads
      · exact ⟨.object [], rest, rfl, closes⟩
      · refine ⟨.object ((key, value) :: members), rest, ?_, closes⟩
        simp [Value.tokens, membersTokens, memberTokens]
  | null => exact ⟨.null, tokens, rfl, closes_of_place begun reads⟩
  | truth value => exact ⟨.truth value, tokens, rfl, closes_of_place begun reads⟩
  | number digits => exact ⟨.number digits, tokens, rfl, closes_of_place begun reads⟩
  | text units => exact ⟨.text units, tokens, rfl, closes_of_place begun reads⟩
  | _ => cases begun

theorem endsInnermost_of_endInnermost
    (ended : endInnermost frames token = some later)
    (reads : later.Reads whole tokens) :
    EndsInnermost whole (token :: tokens) frames := by
  unfold endInnermost at ended
  split at ended
  · exact ⟨tokens, rfl, closes_of_place ended reads⟩
  · exact ⟨tokens, rfl, closes_of_place ended reads⟩
  · cases ended

theorem beginsMember_of_beginMember
    (begun : beginMember frames token = some later)
    (reads : later.Reads whole tokens) :
    BeginsMember whole (token :: tokens) frames := by
  unfold beginMember at begun
  split at begun
  · cases begun
    obtain ⟨rest, rfl, begins⟩ := reads
    exact ⟨_, rest, rfl, begins⟩
  · cases begun

theorem goesOn_of_goOn
    (goes : goOn frames = some later) (reads : later.Reads whole tokens) :
    GoesOn whole (.comma :: tokens) frames := by
  unfold goOn at goes
  split at goes
  · cases goes
    obtain ⟨item, _, rfl, items, rest, rfl, closes⟩ := reads
    refine ⟨item :: items, rest, ?_, closes⟩
    simp [furtherItems]
  · cases goes
    obtain ⟨key, _, rfl, value, _, rfl, members, rest, rfl, closes⟩ := reads
    refine ⟨(key, value) :: members, rest, ?_, closes⟩
    simp [furtherMembers, memberTokens]
  · cases goes

theorem goesOn_of_endsInnermost
    (ends : EndsInnermost whole tokens frames) : GoesOn whole tokens frames := by
  match frames, ends with
  | .items before :: outer, ⟨rest, isTokens, closes⟩ =>
      exact ⟨[], rest, isTokens, by simpa using closes⟩
  | .members before :: outer, ⟨rest, isTokens, closes⟩ =>
      exact ⟨[], rest, isTokens, by simpa using closes⟩

theorem reads_of_step
    (stepped : assembly.step token = some later)
    (reads : later.Reads whole tokens) :
    assembly.Reads whole (token :: tokens) := by
  cases assembly with
  | complete value => cases stepped
  | inside frames expectation =>
      cases expectation with
      | value => exact begins_of_beginValue stepped reads
      | valueOrEnd =>
          simp only [step] at stepped
          split at stepped
          · exact .inl (endsInnermost_of_endInnermost stepped reads)
          · exact .inr (begins_of_beginValue stepped reads)
      | key => exact beginsMember_of_beginMember stepped reads
      | keyOrEnd =>
          simp only [step] at stepped
          split at stepped
          · exact .inl (endsInnermost_of_endInnermost stepped reads)
          · exact .inr (beginsMember_of_beginMember stepped reads)
      | colon =>
          simp only [step] at stepped
          split at stepped
          · subst token
            cases stepped
            exact ⟨tokens, rfl, reads⟩
          · cases stepped
      | separator =>
          simp only [step] at stepped
          split at stepped
          · subst token
            exact goesOn_of_goOn stepped reads
          · exact
              goesOn_of_endsInnermost
                (endsInnermost_of_endInnermost stepped reads)

/-- The value read when the machine goes on with tokens to their end. -/
def read? (assembly : Assembly) (tokens : List Token) : Option Value :=
  (tokens.foldlM step assembly).bind finish

theorem read?_cons (assembly : Assembly) (token : Token) (tokens : List Token) :
    assembly.read? (token :: tokens) =
      (assembly.step token).bind (read? · tokens) := by
  rw [read?, List.foldlM_cons]
  cases assembly.step token <;> rfl

theorem reads_of_read? (found : assembly.read? tokens = some whole) :
    assembly.Reads whole tokens := by
  induction tokens generalizing assembly with
  | nil =>
      cases assembly with
      | complete value =>
          cases found
          exact ⟨rfl, rfl⟩
      | inside frames expectation => cases found
  | cons token tokens inductionHypothesis =>
      rw [read?_cons] at found
      obtain ⟨later, stepped, found⟩ := Option.bind_eq_some_iff.mp found
      exact reads_of_step stepped (inductionHypothesis found)

end Assembly

/-! ## The tokens of a value are read -/

namespace Assembly

theorem tokens_eq_cons (value : Value) :
    ∃ token tokens,
      value.tokens = token :: tokens ∧ token ≠ .closeArray := by
  cases value <;> exact ⟨_, _, rfl, by simp⟩

theorem read?_valueOrEnd (frames : List Frame) (value : Value) (rest : List Token) :
    (Assembly.inside frames .valueOrEnd).read? (value.tokens ++ rest) =
      (Assembly.inside frames .value).read? (value.tokens ++ rest) := by
  obtain ⟨token, tokens, isTokens, notEnd⟩ := tokens_eq_cons value
  rw [isTokens, List.cons_append, read?_cons, read?_cons, step, step]
  simp [notEnd]

/-- The key and the colon of a member are read. -/
theorem read?_memberTokens
    (key : List Nat) (value : Value) (before : List (List Nat × Value))
    (outer : List Frame) (rest : List Token) {expectation : Expectation}
    (expected : expectation = .key ∨ expectation = .keyOrEnd) :
    (Assembly.inside (.members before :: outer) expectation).read?
        (memberTokens (key, value) ++ rest) =
      (Assembly.inside (.keyed key before :: outer) .value).read?
        (value.tokens ++ rest) := by
  obtain rfl | rfl := expected <;>
    simp [memberTokens, read?_cons, step, beginMember]

mutual

theorem read?_tokens (value : Value) (frames : List Frame) (rest : List Token) :
    (Assembly.inside frames .value).read? (value.tokens ++ rest) =
      (place value frames).bind (read? · rest) := by
  match value with
  | .null => rw [Value.tokens, List.singleton_append, read?_cons]; rfl
  | .truth value => rw [Value.tokens, List.singleton_append, read?_cons]; rfl
  | .number digits => rw [Value.tokens, List.singleton_append, read?_cons]; rfl
  | .text units => rw [Value.tokens, List.singleton_append, read?_cons]; rfl
  | .array [] =>
      simp [Value.tokens, itemsTokens, read?_cons, step, beginValue,
        endInnermost]
  | .array (item :: items) =>
      have first :=
        read?_tokens item (.items [] :: frames)
          (furtherItems items ++ .closeArray :: rest)
      have others := read?_furtherItems items [item] frames rest
      rw [← read?_valueOrEnd] at first
      simp only [place, Option.bind_some] at first
      simp [Value.tokens, itemsTokens, read?_cons, step, beginValue, first,
        others]
  | .object [] =>
      simp [Value.tokens, membersTokens, read?_cons, step, beginValue,
        endInnermost]
  | .object ((key, value) :: members) =>
      have first :=
        read?_tokens value (.keyed key [] :: frames)
          (furtherMembers members ++ .closeObject :: rest)
      have others := read?_furtherMembers members [(key, value)] frames rest
      simp only [place, Option.bind_some] at first
      simp [Value.tokens, membersTokens, read?_cons, step, beginValue,
        read?_memberTokens, first, others]

theorem read?_furtherItems
    (items before : List Value) (outer : List Frame) (rest : List Token) :
    (Assembly.inside (.items before :: outer) .separator).read?
        (furtherItems items ++ .closeArray :: rest) =
      (place (.array (before.reverse ++ items)) outer).bind (read? · rest) := by
  match items with
  | [] => simp [furtherItems, read?_cons, step, endInnermost]
  | item :: items =>
      have first :=
        read?_tokens item (.items before :: outer)
          (furtherItems items ++ .closeArray :: rest)
      have others := read?_furtherItems items (item :: before) outer rest
      simp only [place, Option.bind_some] at first
      simp [furtherItems, read?_cons, step, goOn, first, others]

theorem read?_furtherMembers
    (members before : List (List Nat × Value)) (outer : List Frame)
    (rest : List Token) :
    (Assembly.inside (.members before :: outer) .separator).read?
        (furtherMembers members ++ .closeObject :: rest) =
      (place (.object (before.reverse ++ members)) outer).bind
        (read? · rest) := by
  match members with
  | [] => simp [furtherMembers, read?_cons, step, endInnermost]
  | (key, value) :: members =>
      have first :=
        read?_tokens value (.keyed key before :: outer)
          (furtherMembers members ++ .closeObject :: rest)
      have others :=
        read?_furtherMembers members ((key, value) :: before) outer rest
      simp only [place, Option.bind_some] at first
      simp [furtherMembers, read?_cons, step, goOn, read?_memberTokens, first,
        others]

end

end Assembly

/-- A value is put together from its own tokens and from no others. -/
theorem Value.ofTokens?_eq_some_iff (tokens : List Token) (value : Value) :
    ofTokens? tokens = some value ↔ tokens = value.tokens := by
  constructor
  · intro found
    have reads : Assembly.start.Reads value tokens :=
      Assembly.reads_of_read? found
    obtain ⟨_, rest, rfl, rfl, rfl⟩ := reads
    rw [List.append_nil]
  · rintro rfl
    have read := Assembly.read?_tokens value [] []
    rw [List.append_nil] at read
    exact read

/-! ## Neighbours in a value -/

/-- Separated tokens that may follow any token. -/
structure Bounded (tokens : List Token) : Prop where
  separated : Separated tokens
  marked : ∀ token ∈ tokens.head?, token.isMark = true

namespace Bounded

variable {rest : List Token}

theorem of_mark
    {mark : Token} (isMark : mark.isMark = true) (separated : Separated rest) :
    Bounded (mark :: rest) where
  separated := List.isChain_cons.mpr ⟨fun _ _ => .inl isMark, separated⟩
  marked token isFirst := by
    cases isFirst
    exact isMark

theorem separated_cons (bounded : Bounded rest) (token : Token) :
    Separated (token :: rest) :=
  List.isChain_cons.mpr
    ⟨fun next isNext => .inr (bounded.marked next isNext), bounded.separated⟩

mutual

theorem separated_tokens
    {rest : List Token} (bounded : Bounded rest) (value : Value) :
    Separated (value.tokens ++ rest) := by
  match value with
  | .null => exact bounded.separated_cons .null
  | .truth value => exact bounded.separated_cons (.truth value)
  | .number digits => exact bounded.separated_cons (.number digits)
  | .text units => exact bounded.separated_cons (.text units)
  | .array [] =>
      exact (of_mark rfl (of_mark rfl bounded.separated).separated).separated
  | .array (item :: items) =>
      have ended : Bounded (.closeArray :: rest) :=
        of_mark rfl bounded.separated
      have inner := (ended.furtherItems items).separated_tokens item
      have opened : Bounded (.openArray :: _) := of_mark rfl inner
      simpa [Value.tokens, itemsTokens] using opened.separated
  | .object [] =>
      exact (of_mark rfl (of_mark rfl bounded.separated).separated).separated
  | .object (member :: members) =>
      have ended : Bounded (.closeObject :: rest) :=
        of_mark rfl bounded.separated
      have inner := (ended.furtherMembers members).separated_memberTokens member
      have opened : Bounded (.openObject :: _) := of_mark rfl inner
      simpa [Value.tokens, membersTokens] using opened.separated

theorem furtherItems
    {rest : List Token} (bounded : Bounded rest) (items : List Value) :
    Bounded (Json.furtherItems items ++ rest) := by
  match items with
  | [] => exact bounded
  | item :: items =>
      have inner := (bounded.furtherItems items).separated_tokens item
      have opened : Bounded (.comma :: _) := of_mark rfl inner
      simpa [Json.furtherItems] using opened

theorem separated_memberTokens
    {rest : List Token} (bounded : Bounded rest)
    (member : List Nat × Value) :
    Separated (memberTokens member ++ rest) := by
  match member with
  | (key, value) =>
      have inner := bounded.separated_tokens value
      have opened : Bounded (.colon :: _) := of_mark rfl inner
      exact opened.separated_cons (.text key)

theorem furtherMembers
    {rest : List Token} (bounded : Bounded rest)
    (members : List (List Nat × Value)) :
    Bounded (Json.furtherMembers members ++ rest) := by
  match members with
  | [] => exact bounded
  | member :: members =>
      have inner :=
        (bounded.furtherMembers members).separated_memberTokens member
      have opened : Bounded (.comma :: _) := of_mark rfl inner
      simpa [Json.furtherMembers] using opened

end

end Bounded

theorem Value.separated_tokens (value : Value) : Separated value.tokens := by
  have atEnd : Bounded [] := ⟨.nil, by simp⟩
  have separated := atEnd.separated_tokens value
  rwa [List.append_nil] at separated

/-! ## Reading a text -/

namespace Value

/-- A text is read as a value exactly if it is a way to write it. -/
theorem ofText?_eq_some_iff (text : List Char) (value : Value) :
    ofText? text = some value ↔ value.WrittenAs text := by
  constructor
  · intro found
    obtain ⟨tokens, scanned, assembled⟩ := Option.bind_eq_some_iff.mp found
    obtain rfl := (ofTokens?_eq_some_iff tokens value).mp assembled
    exact layout_of_ofText? scanned
  · intro written
    rw [ofText?, ofText?_of_layout written value.separated_tokens,
      Option.bind_some, ofTokens?_eq_some_iff]

/-- No text is a way to write two values. -/
theorem eq_of_writtenAs
    {left right : Value} {text : List Char}
    (isLeft : left.WrittenAs text) (isRight : right.WrittenAs text) :
    left = right := by
  rw [← ofText?_eq_some_iff] at isLeft isRight
  exact Option.some.inj (isLeft.symm.trans isRight)

theorem getLast?_tokens_array (items : List Value) :
    (array items).tokens.getLast? = some .closeArray := by
  rw [tokens, ← List.cons_append, List.getLast?_concat]

/-- Behind an array there may only be blanks. -/
theorem blanks_behind_array
    {items : List Value} {front rest : List Char} {value : Value}
    (written : (array items).WrittenAs front)
    (found : ofText? (front ++ rest) = some value) :
    ∀ char ∈ rest, char ∈ blanks := by
  have closed :
      ∀ last ∈ (array items).tokens.getLast?,
        last.isMark = false → Stops rest := by
    intro last isLast noMark
    rw [getLast?_tokens_array] at isLast
    cases isLast
    cases noMark
  obtain ⟨tokens, scanned, assembled⟩ := Option.bind_eq_some_iff.mp found
  rw [ofText?_eq_read?, Scan.start,
    Scan.read?_of_layout written (array items).separated_tokens closed]
    at scanned
  obtain ⟨more, rfl, laidOut⟩ := reads_of_read? scanned
  rw [List.append_nil, List.reverse_reverse] at assembled
  have read := Assembly.read?_tokens (array items) [] more
  have reads : (Assembly.complete (array items)).Reads _ more :=
    Assembly.reads_of_read? (read.symm.trans assembled)
  obtain ⟨rfl, _⟩ := reads
  exact blanks_of_layout laidOut

end Value

end ChipEight.Json
