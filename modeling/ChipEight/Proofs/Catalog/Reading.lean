import ChipEight.Catalog
import ChipEight.Proofs.Json.Written

/-!
# Reading catalogs

A value describes a game if it is an object in which the name and the file name stand
exactly once, or an array of just these two.  A text is read as a catalog of some games
exactly if it is a way to write an array whose items describe them in this order.  One
item that describes no game is enough for no catalog to come out, and so is anything but
blanks behind the array.
-/

namespace ChipEight

open Json (Value)
open Text.Units

/-! ## Values that describe a game -/

/-- Whether a value is a string that stands for a text. -/
def IsText (value : Value) (text : String) : Prop :=
  ∃ units, value = .text units ∧ StandFor units text.toList

/-- Whether a member of an object has a key. -/
def HasKey (key : String) (member : List Nat × Value) : Prop :=
  StandFor member.1 key.toList

/-- Whether exactly one of some members has a key, and has a text as its value. -/
def HasOnce
    (key text : String) (members : List (List Nat × Value)) : Prop :=
  ∃ before member after,
    members = before ++ member :: after ∧
      HasKey key member ∧ IsText member.2 text ∧
        ∀ other ∈ before ++ after, ¬ HasKey key other

namespace Game

/-- Whether a value describes a game. -/
def DescribedBy (game : Game) : Value → Prop
  | .object members =>
      (∀ member ∈ members, ∃ key, HasKey key member) ∧
        HasOnce "name" game.name members ∧
          HasOnce "filename" game.filename members
  | .array items =>
      ∃ name filename,
        items = [name, filename] ∧
          IsText name game.name ∧ IsText filename game.filename
  | _ => False

/-- The ways in which a value can fail to describe a game. -/
inductive Misdescribed : Value → Prop
  | lacking {members : List (List Nat × Value)} {field : String} :
      field = "name" ∨ field = "filename" →
      (∀ member ∈ members, ¬ HasKey field member) →
      Misdescribed (.object members)
  | repeated {before between after : List (List Nat × Value)}
      {first second : List Nat × Value} {field : String} :
      field = "name" ∨ field = "filename" →
      HasKey field first → HasKey field second →
      Misdescribed
        (.object (before ++ first :: between ++ second :: after))
  | mistyped {members : List (List Nat × Value)} {member : List Nat × Value}
      {field : String} :
      field = "name" ∨ field = "filename" →
      member ∈ members → HasKey field member →
      (∀ text, ¬ IsText member.2 text) →
      Misdescribed (.object members)
  | keyless {members : List (List Nat × Value)} {member : List Nat × Value} :
      member ∈ members → (∀ key, ¬ HasKey key member) →
      Misdescribed (.object members)
  | noPair {items : List Value} :
      items.length ≠ 2 → Misdescribed (.array items)
  | noText {items : List Value} {item : Value} :
      item ∈ items → (∀ text, ¬ IsText item text) → Misdescribed (.array items)
  | neither {value : Value} :
      (∀ members, value ≠ .object members) →
      (∀ items, value ≠ .array items) → Misdescribed value

end Game

/-! ## An object for any game -/

/-- The units that are the characters of a text one by one. -/
def unitsOf (text : String) : List Nat :=
  text.toList.map Char.toNat

theorem hasKey_unitsOf (key text : String) (value : Value) :
    HasKey text (unitsOf key, value) ↔ text = key := by
  constructor
  · intro hasKey
    rw [← String.toList_inj]
    exact hasKey.eq (standFor_map_toNat key.toList)
  · rintro rfl
    exact standFor_map_toNat text.toList

theorem isText_unitsOf (text : String) : IsText (.text (unitsOf text)) text :=
  ⟨_, rfl, standFor_map_toNat text.toList⟩

namespace Game

/-- The members of an object that describes a game. -/
def members (game : Game) : List (List Nat × Value) :=
  [(unitsOf "name", .text (unitsOf game.name)),
    (unitsOf "filename", .text (unitsOf game.filename))]

theorem describedBy_members (game : Game) :
    game.DescribedBy (.object game.members) := by
  refine ⟨?keys, ⟨[], _, _, rfl, ?name⟩, ⟨[_], _, [], rfl, ?filename⟩⟩
  case keys => simp [members, hasKey_unitsOf]
  case name => simp [hasKey_unitsOf, isText_unitsOf]
  case filename => simp [hasKey_unitsOf, isText_unitsOf]

theorem exists_writtenAs_members (game : Game) :
    ∃ text, (Value.object game.members).WrittenAs text := by
  refine Value.exists_writtenAs_object ?_
  intro member inMembers
  simp only [members, List.mem_cons, List.not_mem_nil, or_false] at inMembers
  obtain rfl | rfl := inMembers <;>
    exact Json.exists_layout_memberTokens _ _

end Game

/-! ## Members one by one -/

section

variable {key : String} {member : List Nat × Value}
  {members : List (List Nat × Value)}

/-- What becomes of a field when further members are read. -/
def Completes
    (key : String) (field : Option String)
    (members : List (List Nat × Value)) (final : Option String) : Prop :=
  match field, final with
  | none, none => ∀ member ∈ members, ¬ HasKey key member
  | none, some text => HasOnce key text members
  | some text, final =>
      final = some text ∧ ∀ member ∈ members, ¬ HasKey key member

theorem completes_nil {field final : Option String} :
    Completes key field [] final ↔ field = final := by
  cases field <;> cases final <;> simp [Completes, HasOnce, eq_comm]

theorem hasOnce_cons {text : String} :
    HasOnce key text (member :: members) ↔
      (HasKey key member ∧ IsText member.2 text ∧
          ∀ other ∈ members, ¬ HasKey key other) ∨
        ¬ HasKey key member ∧ HasOnce key text members := by
  constructor
  · rintro ⟨before, found, after, isMembers, hasKey, isText, others⟩
    cases before with
    | nil =>
        obtain ⟨rfl, rfl⟩ := List.cons.inj isMembers
        exact .inl ⟨hasKey, isText, others⟩
    | cons first before =>
        obtain ⟨rfl, rfl⟩ := List.cons.inj isMembers
        obtain ⟨notFirst, others⟩ := List.forall_mem_cons.mp others
        exact .inr ⟨notFirst, before, found, after, rfl, hasKey, isText, others⟩
  · rintro (⟨hasKey, isText, others⟩ |
      ⟨notFirst, before, found, after, rfl, hasKey, isText, others⟩)
    · exact ⟨[], member, members, rfl, hasKey, isText, others⟩
    · exact
        ⟨member :: before, found, after, rfl, hasKey, isText,
          List.forall_mem_cons.mpr ⟨notFirst, others⟩⟩

theorem completes_cons_of_other
    {field final : Option String} (other : ¬ HasKey key member) :
    Completes key field (member :: members) final ↔
      Completes key field members final := by
  cases field <;> cases final <;>
    simp [Completes, hasOnce_cons, other]

theorem completes_cons_of_hasKey
    {field final : Option String} (hasKey : HasKey key member) :
    Completes key field (member :: members) final ↔
      field = none ∧
        ∃ text, IsText member.2 text ∧
          Completes key (some text) members final := by
  cases field <;> cases final <;>
    simp [Completes, hasOnce_cons, hasKey]

end

/-! ## Strings in a text -/

/-- Whether the units of all strings in a value are code points. -/
def Legible (value : Value) : Prop :=
  ∀ units, .text units ∈ value.tokens → InRange units

theorem legible_of_writtenAs
    {value : Value} {text : List Char} (written : value.WrittenAs text) :
    Legible value :=
  fun _ inside => Json.inRange_of_layout written inside

theorem Legible.units {units : List Nat} (legible : Legible (.text units)) :
    InRange units :=
  legible units List.mem_cons_self

theorem Legible.item
    {items : List Value} (legible : Legible (.array items)) {item : Value}
    (inItems : item ∈ items) : Legible item :=
  fun units inItem => legible units (Json.mem_tokens_array inItems inItem)

theorem Legible.key
    {members : List (List Nat × Value)} (legible : Legible (.object members))
    {member : List Nat × Value} (inMembers : member ∈ members) :
    InRange member.1 := by
  refine legible member.1 (Json.mem_tokens_object inMembers ?_)
  rw [Json.memberTokens_eq]
  exact List.mem_cons_self

theorem Legible.value
    {members : List (List Nat × Value)} (legible : Legible (.object members))
    {member : List Nat × Value} (inMembers : member ∈ members) :
    Legible member.2 := by
  intro units inValue
  refine legible units (Json.mem_tokens_object inMembers ?_)
  rw [Json.memberTokens_eq]
  exact List.mem_cons_of_mem _ (List.mem_cons_of_mem _ inValue)

theorem hasKey_iff
    {member : List Nat × Value} (inRange : InRange member.1) (key : String) :
    HasKey key member ↔ decode member.1 = some key.toList :=
  (decode_eq_some_iff inRange).symm

theorem text?_eq_some_iff
    {value : Value} (legible : Legible value) (text : String) :
    Game.text? value = some text ↔ IsText value text := by
  cases value with
  | text units =>
      rw [Game.text?, Option.map_eq_some_iff]
      constructor
      · rintro ⟨chars, decoded, rfl⟩
        refine ⟨units, rfl, ?_⟩
        rw [String.toList_ofList]
        exact standFor_of_decode legible.units decoded
      · rintro ⟨_, same, standFor⟩
        cases same
        exact ⟨text.toList, decode_of_standFor standFor, String.ofList_toList⟩
  | _ => simp [Game.text?, IsText]

namespace Game

/-! ## Objects -/

theorem fields_apart : "filename".toList ≠ "name".toList := by
  decide +kernel

section

variable {draft later : Draft} {member : List Nat × Value}

theorem read?_name_eq_some_iff
    (decoded : decode member.1 = some "name".toList) :
    draft.read? member = some later ↔
      draft.name = none ∧
        ∃ name, text? member.2 = some name ∧
          { draft with name := some name } = later := by
  rw [Draft.read?, decoded, Option.bind_some, if_pos rfl]
  cases draft.name <;> simp

theorem read?_filename_eq_some_iff
    (decoded : decode member.1 = some "filename".toList) :
    draft.read? member = some later ↔
      draft.filename = none ∧
        ∃ filename, text? member.2 = some filename ∧
          { draft with filename := some filename } = later := by
  rw [Draft.read?, decoded, Option.bind_some, if_neg fields_apart, if_pos rfl]
  cases draft.filename <;> simp

theorem read?_other
    {key : List Char} (decoded : decode member.1 = some key)
    (notName : key ≠ "name".toList) (notFilename : key ≠ "filename".toList) :
    draft.read? member = some draft := by
  rw [Draft.read?, decoded, Option.bind_some, if_neg notName,
    if_neg notFilename]

end

/-- A member is read if it has a key, and then both fields are completed from the
members behind it as from all of them. -/
theorem exists_read?_iff
    (draft final : Draft) {member : List Nat × Value}
    (members : List (List Nat × Value))
    (inRange : InRange member.1) (legible : Legible member.2) :
    (∃ later, draft.read? member = some later ∧
      Completes "name" later.name members final.name ∧
        Completes "filename" later.filename members final.filename) ↔
      (∃ key, HasKey key member) ∧
        Completes "name" draft.name (member :: members) final.name ∧
          Completes "filename" draft.filename (member :: members)
            final.filename := by
  have hasKey := hasKey_iff inRange
  have isText := text?_eq_some_iff legible
  cases decoded : decode member.1 with
  | none =>
      have unread : draft.read? member = none := by
        rw [Draft.read?, decoded, Option.bind_none]
      simp [unread, hasKey, decoded]
  | some key =>
      have isKey : ∃ key, HasKey key member :=
        ⟨String.ofList key, by rw [hasKey, decoded, String.toList_ofList]⟩
      by_cases isName : key = "name".toList
      · subst isName
        have other : ¬ HasKey "filename" member := by
          rw [hasKey, decoded, Option.some.injEq]
          exact fields_apart.symm
        rw [completes_cons_of_hasKey ((hasKey "name").mpr decoded),
          completes_cons_of_other other]
        simp only [read?_name_eq_some_iff decoded, isText]
        constructor
        · rintro ⟨_, ⟨unnamed, name, named, rfl⟩, first, second⟩
          exact ⟨isKey, ⟨unnamed, name, named, first⟩, second⟩
        · rintro ⟨_, ⟨unnamed, name, named, first⟩, second⟩
          exact ⟨_, ⟨unnamed, name, named, rfl⟩, first, second⟩
      · by_cases isFilename : key = "filename".toList
        · subst isFilename
          have other : ¬ HasKey "name" member := by
            rw [hasKey, decoded, Option.some.injEq]
            exact fields_apart
          rw [completes_cons_of_hasKey ((hasKey "filename").mpr decoded),
            completes_cons_of_other other]
          simp only [read?_filename_eq_some_iff decoded, isText]
          constructor
          · rintro ⟨_, ⟨absent, filename, given, rfl⟩, first, second⟩
            exact ⟨isKey, first, absent, filename, given, second⟩
          · rintro ⟨_, first, absent, filename, given, second⟩
            exact ⟨_, ⟨absent, filename, given, rfl⟩, first, second⟩
        · have notNamed : ¬ HasKey "name" member := by
            simpa [hasKey, decoded] using isName
          have notFiled : ¬ HasKey "filename" member := by
            simpa [hasKey, decoded] using isFilename
          simp [completes_cons_of_other notNamed,
            completes_cons_of_other notFiled,
            read?_other decoded isName isFilename, isKey]

/-- The members are read one by one, each with a key, and complete both fields. -/
theorem foldlM_read?_eq_some_iff
    {members : List (List Nat × Value)} (draft final : Draft)
    (keysInRange : ∀ member ∈ members, InRange member.1)
    (valuesLegible : ∀ member ∈ members, Legible member.2) :
    members.foldlM Draft.read? draft = some final ↔
      (∀ member ∈ members, ∃ key, HasKey key member) ∧
        Completes "name" draft.name members final.name ∧
          Completes "filename" draft.filename members final.filename := by
  induction members generalizing draft with
  | nil =>
      obtain ⟨name, filename⟩ := draft
      obtain ⟨finalName, finalFilename⟩ := final
      simp [completes_nil]
  | cons member members inductionHypothesis =>
      obtain ⟨inRange, keysInRange⟩ := List.forall_mem_cons.mp keysInRange
      obtain ⟨legible, valuesLegible⟩ := List.forall_mem_cons.mp valuesLegible
      have one :=
        exists_read?_iff draft final members inRange legible
      rw [List.foldlM_cons, List.forall_mem_cons]
      simp only [Option.bind_eq_bind, Option.bind_eq_some_iff,
        inductionHypothesis _ keysInRange valuesLegible]
      constructor
      · rintro ⟨later, read, keys, completed⟩
        obtain ⟨key, completes⟩ := one.mp ⟨later, read, completed⟩
        exact ⟨⟨key, keys⟩, completes⟩
      · rintro ⟨⟨key, keys⟩, completes⟩
        obtain ⟨later, read, completed⟩ := one.mpr ⟨key, completes⟩
        exact ⟨later, read, keys, completed⟩

/-- An object is read as a game exactly if it describes it. -/
theorem ofMembers?_eq_some_iff
    {members : List (List Nat × Value)} (legible : Legible (.object members))
    (game : Game) :
    ofMembers? members = some game ↔ game.DescribedBy (.object members) := by
  obtain ⟨name, filename⟩ := game
  have read :=
    foldlM_read?_eq_some_iff ⟨none, none⟩ ⟨some name, some filename⟩
      (fun _ inMembers => legible.key inMembers)
      (fun _ inMembers => legible.value inMembers)
  rw [DescribedBy]
  refine Iff.trans ?_ read
  rw [ofMembers?, Option.bind_eq_some_iff]
  constructor
  · rintro ⟨⟨_ | finalName, _ | finalFilename⟩, found, complete⟩ <;>
      cases complete
    exact found
  · intro found
    exact ⟨_, found, rfl⟩

theorem ofValue?_pair_eq_some_iff
    {first second : Value} (firstLegible : Legible first)
    (secondLegible : Legible second) (game : Game) :
    ofValue? (.array [first, second]) = some game ↔
      IsText first game.name ∧ IsText second game.filename := by
  obtain ⟨name, filename⟩ := game
  simp only [ofValue?, Option.bind_eq_some_iff, Option.map_eq_some_iff,
    text?_eq_some_iff firstLegible, text?_eq_some_iff secondLegible,
    mk.injEq]
  constructor
  · rintro ⟨_, isName, _, isFilename, rfl, rfl⟩
    exact ⟨isName, isFilename⟩
  · rintro ⟨isName, isFilename⟩
    exact ⟨name, isName, filename, isFilename, rfl, rfl⟩

/-- A value is read as a game exactly if it describes it. -/
theorem ofValue?_eq_some_iff
    {value : Value} (legible : Legible value) (game : Game) :
    ofValue? value = some game ↔ game.DescribedBy value := by
  cases value with
  | object members => exact ofMembers?_eq_some_iff legible game
  | array items =>
      match items with
      | [first, second] =>
          have firstLegible : Legible first := legible.item (by simp)
          have secondLegible : Legible second := legible.item (by simp)
          rw [ofValue?_pair_eq_some_iff firstLegible secondLegible]
          simp [DescribedBy]
      | [] => simp [ofValue?, DescribedBy]
      | [_] => simp [ofValue?, DescribedBy]
      | _ :: _ :: _ :: _ => simp [ofValue?, DescribedBy]
  | _ => simp [ofValue?, DescribedBy]

/-! ## Values that describe no game -/

section

variable {field text : String} {members : List (List Nat × Value)}

theorem hasOnce_of_describedBy
    {game : Game} (described : game.DescribedBy (.object members))
    (isField : field = "name" ∨ field = "filename") :
    ∃ text, HasOnce field text members := by
  obtain ⟨_, name, filename⟩ := described
  obtain rfl | rfl := isField
  · exact ⟨game.name, name⟩
  · exact ⟨game.filename, filename⟩

theorem exists_hasKey_of_hasOnce (once : HasOnce field text members) :
    ∃ member ∈ members, HasKey field member := by
  obtain ⟨before, member, after, rfl, hasKey, _⟩ := once
  exact ⟨member, by simp, hasKey⟩

theorem isText_of_hasOnce
    (once : HasOnce field text members) {member : List Nat × Value}
    (inMembers : member ∈ members) (hasKey : HasKey field member) :
    IsText member.2 text := by
  obtain ⟨before, found, after, rfl, _, isText, others⟩ := once
  have foundOrOther : member = found ∨ member ∈ before ++ after := by
    simp only [List.mem_append, List.mem_cons] at inMembers ⊢
    grind
  obtain rfl | isOther := foundOrOther
  · exact isText
  · exact absurd hasKey (others member isOther)

theorem not_hasOnce_of_repeated
    {before between after : List (List Nat × Value)}
    {first second : List Nat × Value}
    (isFirst : HasKey field first) (isSecond : HasKey field second) :
    ¬ HasOnce field text
      (before ++ first :: between ++ second :: after) := by
  induction before with
  | nil =>
      simp only [List.nil_append, List.cons_append, hasOnce_cons]
      rintro (⟨_, _, others⟩ | ⟨notFirst, _⟩)
      · exact others second (by simp) isSecond
      · exact notFirst isFirst
  | cons member before inductionHypothesis =>
      simp only [List.cons_append, hasOnce_cons]
      rintro (⟨_, _, others⟩ | ⟨_, once⟩)
      · exact others first (by simp) isFirst
      · exact inductionHypothesis once

end

theorem not_describedBy_of_misdescribed
    {value : Value} (misdescribed : Misdescribed value) (game : Game) :
    ¬ game.DescribedBy value := by
  intro described
  cases misdescribed with
  | lacking isField absent =>
      obtain ⟨text, once⟩ := hasOnce_of_describedBy described isField
      obtain ⟨member, inMembers, hasKey⟩ := exists_hasKey_of_hasOnce once
      exact absent member inMembers hasKey
  | repeated isField isFirst isSecond =>
      obtain ⟨text, once⟩ := hasOnce_of_describedBy described isField
      exact not_hasOnce_of_repeated isFirst isSecond once
  | mistyped isField inMembers hasKey noText =>
      obtain ⟨text, once⟩ := hasOnce_of_describedBy described isField
      exact noText text (isText_of_hasOnce once inMembers hasKey)
  | keyless inMembers noKey =>
      obtain ⟨key, hasKey⟩ := described.1 _ inMembers
      exact noKey key hasKey
  | noPair notTwo =>
      obtain ⟨name, filename, rfl, _⟩ := described
      exact notTwo rfl
  | @noText _ item inItems noText =>
      obtain ⟨name, filename, rfl, isName, isFilename⟩ := described
      obtain rfl | inRest := List.mem_cons.mp inItems
      · exact noText game.name isName
      · obtain rfl := List.mem_singleton.mp inRest
        exact noText game.filename isFilename
  | neither noObject noArray =>
      cases value with
      | object members => exact noObject members rfl
      | array items => exact noArray items rfl
      | _ => exact described

end Game

/-! ## Texts that list games -/

namespace Catalog

/-- Whether a text lists some games. -/
def Lists (games : List Game) (text : List Char) : Prop :=
  ∃ items, (Value.array items).WrittenAs text ∧
    List.Forall₂ Game.DescribedBy games items

/-- The members of an object that describes a game and has another member between the
two fields. -/
def sampleMembers : List (List Nat × Value) :=
  [(unitsOf "name", .text [0xD83D, 0xDE00]),
    (unitsOf "x", .array [.number ['1'], .object [(unitsOf "y", .null)]]),
    (unitsOf "filename", .text (unitsOf "B"))]

def sampleItems : List Value :=
  [.object sampleMembers, .array [.text (unitsOf "C"), .text (unitsOf "D")]]

/-- A text with blanks, escapes and a pair of surrogates. -/
def sampleText : String :=
  "[\x7b\"n\\u0061me\" : \"\\uD83D\\uDE00\", \"x\":[1,\x7b\"y\":null\x7d],\n" ++
    "\"filename\":\"\\u0042\"\x7d , [\"C\",\"D\"]] "

theorem lists_sampleText :
    Lists [⟨"😀", "B"⟩, ⟨"C", "D"⟩] sampleText.toList := by
  have written : (Value.array sampleItems).WrittenAs sampleText.toList :=
    Json.layout_of_ofText? (by decide +kernel)
  have surrogates : IsText (.text [0xD83D, 0xDE00]) "😀" := by
    refine ⟨_, rfl, ?_⟩
    rw [← decode_eq_some_iff (by simp [InRange])]
    decide +kernel
  have keys : ∀ member ∈ sampleMembers, ∃ key, HasKey key member := by
    simp [sampleMembers, hasKey_unitsOf]
  have name : HasOnce "name" "😀" sampleMembers :=
    ⟨[], _, _, rfl, by simp [hasKey_unitsOf, surrogates]⟩
  have filename : HasOnce "filename" "B" sampleMembers :=
    ⟨[_, _], _, [], rfl, by simp [hasKey_unitsOf, isText_unitsOf]⟩
  have pair := And.intro (isText_unitsOf "C") (isText_unitsOf "D")
  exact
    ⟨sampleItems, written,
      .cons ⟨keys, name, filename⟩ (.cons ⟨_, _, rfl, pair⟩ .nil)⟩

/-- There is a text for any games. -/
theorem exists_lists (games : List Game) :
    ∃ text : String, Lists games text.toList := by
  have writable :
      ∀ item ∈ games.map fun game => Value.object game.members,
        ∃ text, item.WrittenAs text := by
    intro item inItems
    obtain ⟨game, _, rfl⟩ := List.mem_map.mp inItems
    exact game.exists_writtenAs_members
  obtain ⟨text, written⟩ := Value.exists_writtenAs_array writable
  have described :
      List.Forall₂ Game.DescribedBy games
        (games.map fun game => Value.object game.members) := by
    rw [List.forall₂_map_right_iff, List.forall₂_same]
    exact fun game _ => game.describedBy_members
  have isText : (String.ofList text).toList = text := String.toList_ofList
  rw [← isText] at written
  exact ⟨String.ofList text, _, written, described⟩

theorem mapM_ofValue?_eq_some_iff
    {items : List Value} (legible : ∀ item ∈ items, Legible item)
    (games : List Game) :
    items.mapM Game.ofValue? = some games ↔
      List.Forall₂ Game.DescribedBy games items := by
  induction items generalizing games with
  | nil => simp [eq_comm]
  | cons item items inductionHypothesis =>
      obtain ⟨itemLegible, legible⟩ := List.forall_mem_cons.mp legible
      rw [List.mapM_cons, List.forall₂_cons_right_iff]
      simp only [Option.bind_eq_bind, Option.bind_eq_some_iff,
        Game.ofValue?_eq_some_iff itemLegible, inductionHypothesis legible,
        Option.pure_def, Option.some.injEq]
      constructor
      · rintro ⟨game, described, others, othersDescribed, rfl⟩
        exact ⟨game, others, described, othersDescribed, rfl⟩
      · rintro ⟨game, others, described, othersDescribed, rfl⟩
        exact ⟨game, described, others, othersDescribed, rfl⟩

theorem gamesOfValue?_eq_some_iff
    {value : Value} (legible : Legible value) (games : List Game) :
    gamesOfValue? value = some games ↔
      ∃ items, value = .array items ∧
        List.Forall₂ Game.DescribedBy games items := by
  cases value with
  | array items =>
      rw [gamesOfValue?,
        mapM_ofValue?_eq_some_iff fun _ inItems => legible.item inItems]
      simp
  | _ => simp [gamesOfValue?]

/-- A text is read as some games exactly if it lists them. -/
theorem gamesOfText?_eq_some_iff (text : String) (games : List Game) :
    gamesOfText? text = some games ↔ Lists games text.toList := by
  rw [gamesOfText?, Option.bind_eq_some_iff]
  simp only [Value.ofText?_eq_some_iff]
  constructor
  · rintro ⟨value, written, read⟩
    have legible := legible_of_writtenAs written
    obtain ⟨items, rfl, described⟩ :=
      (gamesOfValue?_eq_some_iff legible games).mp read
    exact ⟨items, written, described⟩
  · rintro ⟨items, written, described⟩
    have legible := legible_of_writtenAs written
    exact
      ⟨.array items, written,
        (gamesOfValue?_eq_some_iff legible games).mpr
          ⟨items, rfl, described⟩⟩

theorem exists_describedBy
    {games : List Game} {items : List Value} {item : Value}
    (described : List.Forall₂ Game.DescribedBy games items)
    (inItems : item ∈ items) : ∃ game : Game, game.DescribedBy item := by
  induction described with
  | nil => cases inItems
  | cons first _ inductionHypothesis =>
      obtain rfl | inRest := List.mem_cons.mp inItems
      · exact ⟨_, first⟩
      · exact inductionHypothesis inRest

/-- One item that describes no game is enough for no games to be read. -/
theorem gamesOfText?_of_misdescribed
    {text : String} {items : List Value} {item : Value}
    (written : (Value.array items).WrittenAs text.toList)
    (inItems : item ∈ items) (misdescribed : Game.Misdescribed item) :
    gamesOfText? text = none := by
  rw [Option.eq_none_iff_forall_ne_some]
  intro games read
  obtain ⟨others, othersWritten, described⟩ :=
    (gamesOfText?_eq_some_iff text games).mp read
  cases Value.eq_of_writtenAs written othersWritten
  obtain ⟨game, isDescribed⟩ := exists_describedBy described inItems
  exact Game.not_describedBy_of_misdescribed misdescribed game isDescribed

/-- Anything but blanks behind the array is enough for no games to be read. -/
theorem gamesOfText?_of_behind
    {text : String} {items : List Value} {front rest : List Char}
    {char : Char}
    (written : (Value.array items).WrittenAs front)
    (isText : text.toList = front ++ rest) (inRest : char ∈ rest)
    (notBlank : char ∉ Json.blanks) :
    gamesOfText? text = none := by
  rw [gamesOfText?, isText, Option.bind_eq_none_iff]
  intro value read
  exact absurd (Value.blanks_behind_array written read char inRest) notBlank

/-! ## Catalogs in files -/

section

variable {path : String} {bytes : List UInt8} {text : String}

/-- A file with a text that lists games is a catalog of them, found in the directory of
the file. -/
theorem ofFile_eq_ok_iff
    (isText : textOfBytes? bytes = some text) (catalog : Catalog) :
    ofFile path (some bytes) = .ok catalog ↔
      catalog.root = Path.parent path ∧ Lists catalog.games text.toList := by
  obtain ⟨root, games⟩ := catalog
  rw [← gamesOfText?_eq_some_iff]
  simp only [ofFile, Option.bind_some, isText]
  cases gamesOfText? text <;> simp [eq_comm]

theorem ofFile_of_unlisted
    (isText : textOfBytes? bytes = some text)
    (unlisted : gamesOfText? text = none) :
    ofFile path (some bytes) = .error (.malformed path) := by
  simp only [ofFile, Option.bind_some, isText, unlisted]

end

/-- Any games are listed by some text.  A text is read as the games that it lists, in
their order, and as nothing if it is an array with an item that describes no game or if
something stands behind the array.  A file has the catalog of its text or none. -/
theorem games_exactly_as_listed :
    (∀ games, ∃ text : String, Lists games text.toList) ∧
      ∀ text : String,
        (∀ games, gamesOfText? text = some games ↔ Lists games text.toList) ∧
          (∀ items, (Value.array items).WrittenAs text.toList →
            (∃ item ∈ items, Game.Misdescribed item) →
              gamesOfText? text = none) ∧
            (∀ items front rest, (Value.array items).WrittenAs front →
              text.toList = front ++ rest →
                (∃ char ∈ rest, char ∉ Json.blanks) →
                  gamesOfText? text = none) ∧
              ∀ path bytes, textOfBytes? bytes = some text →
                (∀ catalog, ofFile path (some bytes) = .ok catalog ↔
                  catalog.root = Path.parent path ∧
                    Lists catalog.games text.toList) ∧
                  (gamesOfText? text = none →
                    ofFile path (some bytes) = .error (.malformed path)) := by
  refine ⟨exists_lists, fun text => ?_⟩
  refine ⟨gamesOfText?_eq_some_iff text, ?_, ?_, ?_⟩
  · rintro items written ⟨item, inItems, misdescribed⟩
    exact gamesOfText?_of_misdescribed written inItems misdescribed
  · rintro items front rest written isText ⟨char, inRest, notBlank⟩
    exact gamesOfText?_of_behind written isText inRest notBlank
  · intro path bytes isText
    exact ⟨ofFile_eq_ok_iff isText, ofFile_of_unlisted isText⟩

/-- Two games, an item that lacks a field, a file without games, and one with something
behind its array. -/
theorem games_as_listed_in_samples :
    gamesOfText? sampleText = some [⟨"😀", "B"⟩, ⟨"C", "D"⟩] ∧
      gamesOfText? "[[\"C\",\"D\"],\x7b\"name\":\"C\"\x7d]" = none ∧
        ofFile "games/index" (some [0x5B, 0x5D]) = .ok ⟨"games", []⟩ ∧
          ofFile "games/index" (some [0x5B, 0x5D, 0x78]) =
            .error (.malformed "games/index") := by
  have empty : (Value.array []).WrittenAs ['[', ']'] :=
    Json.layout_of_ofText? (by decide +kernel)
  refine ⟨?_, ?_, ?_, ?_⟩
  · exact ((games_exactly_as_listed.2 sampleText).1 _).mpr lists_sampleText
  · have lacking :
        Game.Misdescribed
          (.object [(unitsOf "name", .text (unitsOf "C"))]) :=
      .lacking (.inr rfl) (by simp [hasKey_unitsOf])
    have written :
        (Value.array
          [.array [.text (unitsOf "C"), .text (unitsOf "D")],
            .object [(unitsOf "name", .text (unitsOf "C"))]]).WrittenAs
          "[[\"C\",\"D\"],\x7b\"name\":\"C\"\x7d]".toList :=
      Json.layout_of_ofText? (by decide +kernel)
    exact
      (games_exactly_as_listed.2 _).2.1 _ written ⟨_, by simp, lacking⟩
  · have isText : textOfBytes? [0x5B, 0x5D] = some "[]" := by decide +kernel
    have chars : "[]".toList = ['[', ']'] := by decide +kernel
    exact
      (((games_exactly_as_listed.2 "[]").2.2.2 _ _ isText).1 _).mpr
        ⟨by decide +kernel, _, chars ▸ empty, .nil⟩
  · have isText : textOfBytes? [0x5B, 0x5D, 0x78] = some "[]x" := by
      decide +kernel
    have unlisted : gamesOfText? "[]x" = none :=
      (games_exactly_as_listed.2 "[]x").2.2.1 _ _ ['x'] empty
        (by decide +kernel) ⟨'x', by simp, by decide⟩
    exact ((games_exactly_as_listed.2 "[]x").2.2.2 _ _ isText).2 unlisted

end Catalog

end ChipEight
