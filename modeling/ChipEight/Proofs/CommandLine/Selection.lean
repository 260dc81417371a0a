import ChipEight.CommandLine.Run
import ChipEight.FileTree
import Mathlib.Data.List.Forall2

/-!
# Naming a program

A program is named by its path, or by its name in a catalog.  The name selects the
first game that bears it, whatever the case of its letters, and stands for the path
that the list of the catalog shows for this game: both ways lead to the same lines.

Neither the list of a catalog nor the listing of a program depends on the settings
that a program is played with, which are not even looked at.
-/

namespace ChipEight

/-! ## Names -/

/-- Whether two characters are equal, or one is the capital of the other. -/
def SameLetter (left right : Char) : Prop :=
  left = right ∨
    left.isUpper = true ∧ right.toNat = left.toNat + 32 ∨
      right.isUpper = true ∧ left.toNat = right.toNat + 32

/-- Whether two names are equal letter by letter, the case of ASCII letters apart. -/
def SameLetters (left right : String) : Prop :=
  List.Forall₂ SameLetter left.toList right.toList

theorem isUpper_iff (char : Char) :
    char.isUpper = true ↔ 65 ≤ char.toNat ∧ char.toNat ≤ 90 :=
  decide_eq_true_iff

theorem toNat_toLower (char : Char) :
    char.toLower.toNat =
      if char.isUpper = true then char.toNat + 32 else char.toNat := by
  unfold Char.toLower
  by_cases capital : 'A'.val ≤ char.val ∧ char.val ≤ 'Z'.val
  · have small : char.toNat ≤ 90 := capital.2
    have isUpper : char.isUpper = true := decide_eq_true capital
    rw [dif_pos capital, if_pos isUpper]
    change (char.val + 32).toNat = char.toNat + 32
    rw [UInt32.toNat_add]
    exact Nat.mod_eq_of_lt (show char.toNat + 32 < 2 ^ 32 by omega)
  · have notUpper : ¬ char.isUpper = true := fun isUpper =>
      capital (of_decide_eq_true isUpper)
    rw [dif_neg capital, if_neg notUpper]

theorem toLower_eq_iff (left right : Char) :
    left.toLower = right.toLower ↔ SameLetter left right := by
  rw [← Char.toNat_inj, toNat_toLower, toNat_toLower, SameLetter,
    ← Char.toNat_inj]
  simp only [isUpper_iff]
  split <;> split <;> omega

theorem sameName_iff (left right : String) :
    Catalog.sameName left right = true ↔ SameLetters left right := by
  rw [Catalog.sameName, beq_iff_eq, ← List.forall₂_eq_eq_eq,
    List.forall₂_map_left_iff, List.forall₂_map_right_iff, SameLetters]
  simp only [toLower_eq_iff]

/-! ## The game that a name selects -/

namespace Catalog

/-- Whether a game is the first in the catalog to bear a name. -/
def Selects (catalog : Catalog) (name : String) (game : Game) : Prop :=
  ∃ before after,
    catalog.games = before ++ game :: after ∧
      SameLetters game.name name ∧
        ∀ earlier ∈ before, ¬ SameLetters earlier.name name

theorem find?_eq_some_iff
    (catalog : Catalog) (name : String) (game : Game) :
    catalog.find? name = some game ↔ catalog.Selects name game := by
  rw [find?, List.find?_eq_some_iff_append, sameName_iff]
  simp only [Bool.not_eq_true', Bool.eq_false_iff, ne_eq, sameName_iff]
  constructor
  · rintro ⟨same, before, after, split, others⟩
    exact ⟨before, after, split, same, others⟩
  · rintro ⟨before, after, split, same, others⟩
    exact ⟨same, before, after, split, others⟩

theorem root_ofFile
    {path : String} {bytes : Option (List UInt8)} {catalog : Catalog}
    (opened : ofFile path bytes = .ok catalog) :
    catalog.root = Path.parent path := by
  unfold ofFile at opened
  split at opened
  · cases opened
  · split at opened
    · cases opened
    · cases opened
      rfl

theorem find?_eq_none_iff (catalog : Catalog) (name : String) :
    catalog.find? name = none ↔
      ∀ game ∈ catalog.games, ¬ SameLetters game.name name := by
  simp only [find?, List.find?_eq_none, sameName_iff]

end Catalog

/-! ## Command lines over given files -/

namespace CommandLine

/-- The outcome of a command line, given what the files hold. -/
def outcome
    (read : String → Option (List UInt8)) (arguments : List String) :
    Outcome :=
  Id.run (run read arguments)

def Outcome.Succeeds (outcome : Outcome) : Prop :=
  ∃ conclusion, outcome.result = .ok conclusion

/-- What is left to do with a program that was asked for, or of the failure to
read it. -/
def proceed
    (options : Options) (notices : List Notice) (unreadable : Failure) :
    Option (List UInt8) → Outcome
  | none => .failed notices unreadable
  | some program => conclude options notices program

variable {read : String → Option (List UInt8)}
variable {arguments : List String} {options : Options}
variable {file name path : String} {catalog : Catalog}

theorem run_found (found : Option (List UInt8)) :
    Id.run found = found := rfl

theorem outcome_unopened
    {error : CatalogError}
    (parsed : Options.ofArguments arguments = .ok options)
    (hasLibrary : options.library = some file)
    (unopened : Catalog.ofFile file (read file) = .error error) :
    outcome read arguments = .failed [] (.catalog error) := by
  simp only [outcome, run, parsed, runOptions, hasLibrary, runCatalog,
    Id.run_bind, run_found, unopened, Id.run_pure]

theorem outcome_listed
    (parsed : Options.ofArguments arguments = .ok options)
    (hasLibrary : options.library = some file)
    (opened : Catalog.ofFile file (read file) = .ok catalog)
    (unnamed : options.program = none) :
    outcome read arguments =
      { lines := catalog.games.map (gameLine catalog)
        result := .ok .finished } := by
  simp only [outcome, run, parsed, runOptions, hasLibrary, runCatalog,
    Id.run_bind, run_found, opened, unnamed, Id.run_pure]

theorem outcome_unselected
    (parsed : Options.ofArguments arguments = .ok options)
    (hasLibrary : options.library = some file)
    (opened : Catalog.ofFile file (read file) = .ok catalog)
    (named : options.program = some name)
    (unselected : catalog.find? name = none) :
    outcome read arguments = .failed [] (.gameUnknown name file) := by
  simp only [outcome, run, parsed, runOptions, hasLibrary, runCatalog,
    Id.run_bind, run_found, opened, named, unselected, Id.run_pure]

theorem outcome_selected
    {game : Game}
    (parsed : Options.ofArguments arguments = .ok options)
    (hasLibrary : options.library = some file)
    (opened : Catalog.ofFile file (read file) = .ok catalog)
    (named : options.program = some name)
    (selected : catalog.find? name = some game) :
    outcome read arguments =
      proceed options [.gameLoading game.name]
        (.catalog
          (.programUnreadable game.name (catalog.programPath game)))
        (read (catalog.programPath game)) := by
  simp only [outcome, run, parsed, runOptions, hasLibrary, runCatalog,
    Id.run_bind, run_found, opened, named, selected]
  cases read (catalog.programPath game) <;> rfl

theorem outcome_direct
    (parsed : Options.ofArguments arguments = .ok options)
    (noLibrary : options.library = none)
    (named : options.program = some path) :
    outcome read arguments =
      proceed options [] (.programUnreadable path) (read path) := by
  simp only [outcome, run, parsed, runOptions, noLibrary, named,
    Id.run_bind, run_found]
  cases read path <;> rfl

/-- Of the options, the listing of a program reads only that it is asked for. -/
theorem proceed_disassemble
    {notices : List Notice} {unreadable : Failure}
    (disassemble : options.disassemble = true)
    (found : Option (List UInt8)) :
    proceed options notices unreadable found =
      match found with
      | none => .failed notices unreadable
      | some program =>
          { lines := Listing.print program
            notices := notices
            result := .ok .finished } := by
  cases found with
  | none => rfl
  | some program => rw [proceed, conclude, if_pos disassemble]

/-- Two listings of what was read at one place, whatever they report besides. -/
theorem proceed_agree
    {other : Options} {notices otherNotices : List Notice}
    {unreadable otherUnreadable : Failure}
    (disassemble : options.disassemble = true)
    (otherDisassemble : other.disassemble = true)
    (found : Option (List UInt8)) :
    ((proceed options notices unreadable found).Succeeds ↔
        (proceed other otherNotices otherUnreadable found).Succeeds) ∧
      (proceed options notices unreadable found).lines =
        (proceed other otherNotices otherUnreadable found).lines := by
  rw [proceed_disassemble disassemble,
    proceed_disassemble otherDisassemble]
  cases found with
  | none => exact ⟨by simp [Outcome.Succeeds, Outcome.failed], rfl⟩
  | some program => exact ⟨by simp [Outcome.Succeeds], rfl⟩

/-- The two dashes keep a path that looks like an option from being read as
one. -/
theorem ofArguments_disassemble (path : String) :
    Options.ofArguments ["--disassemble", "--", path] =
      .ok { program := some path, disassemble := true } := by
  rfl

/-- Whether two command lines ask for the same, the settings of the console
apart. -/
structure Options.SameRequest (options other : Options) : Prop where
  library : other.library = options.library
  program : other.program = options.program
  disassemble : other.disassemble = options.disassemble

/-- Whether nothing is to be played: a catalog or a program is only listed. -/
def Options.ListsOnly (options : Options) : Prop :=
  options.disassemble = true ∨
    options.library.isSome = true ∧ options.program = none

theorem proceed_congr
    {other : Options} {notices : List Notice} {unreadable : Failure}
    (same : options.SameRequest other)
    (disassemble : options.disassemble = true) :
    proceed other notices unreadable =
      proceed options notices unreadable := by
  funext found
  rw [proceed_disassemble disassemble,
    proceed_disassemble (same.disassemble.trans disassemble)]

/-- What is only listed is the same for all settings that it might be played
with. -/
theorem outcome_congr
    {others : List String} {otherOptions : Options}
    (parsed : Options.ofArguments arguments = .ok options)
    (otherParsed : Options.ofArguments others = .ok otherOptions)
    (same : options.SameRequest otherOptions)
    (listsOnly : options.ListsOnly) :
    outcome read others = outcome read arguments := by
  have disassemble (name : String) (named : options.program = some name) :
      options.disassemble = true := by
    rcases listsOnly with isAsked | ⟨_, unnamed⟩
    · exact isAsked
    · rw [named] at unnamed
      cases unnamed
  cases hasLibrary : options.library with
  | none =>
      have otherLibrary := same.library.trans hasLibrary
      cases named : options.program with
      | none =>
          have otherNamed := same.program.trans named
          simp only [outcome, run, parsed, otherParsed, runOptions,
            hasLibrary, otherLibrary, named, otherNamed]
      | some path =>
          rw [outcome_direct parsed hasLibrary named,
            outcome_direct otherParsed otherLibrary
              (same.program.trans named),
            proceed_congr same (disassemble path named)]
  | some file =>
      have otherLibrary := same.library.trans hasLibrary
      cases opened : Catalog.ofFile file (read file) with
      | error error =>
          rw [outcome_unopened parsed hasLibrary opened,
            outcome_unopened otherParsed otherLibrary opened]
      | ok catalog =>
          cases named : options.program with
          | none =>
              rw [outcome_listed parsed hasLibrary opened named,
                outcome_listed otherParsed otherLibrary opened
                  (same.program.trans named)]
          | some name =>
              have otherNamed := same.program.trans named
              cases selected : catalog.find? name with
              | none =>
                  rw [outcome_unselected parsed hasLibrary opened named
                      selected,
                    outcome_unselected otherParsed otherLibrary opened
                      otherNamed selected]
              | some game =>
                  rw [outcome_selected parsed hasLibrary opened named
                      selected,
                    outcome_selected otherParsed otherLibrary opened
                      otherNamed selected,
                    proceed_congr same (disassemble name named)]

/-- A game that was selected is known, whatever becomes of its program. -/
theorem proceed_ne_gameUnknown
    (name file : String) (options : Options) (notices : List Notice)
    (error : CatalogError) (found : Option (List UInt8)) :
    (proceed options notices (.catalog error) found).result ≠
      .error (.gameUnknown name file) := by
  cases found with
  | none => simp [proceed, Outcome.failed]
  | some program =>
      rw [proceed, conclude]
      split
      · simp
      · split <;> simp [Outcome.failed]

/-- What a command line comes to that names a catalog. -/
structure SelectsAsListed
    (read : String → Option (List UInt8)) (arguments : List String)
    (options : Options) (file : String) (catalog : Catalog) : Prop where
  /-- Without a name, each game is shown with its name and its path. -/
  listed :
    options.program = none →
      outcome read arguments =
        { lines :=
            catalog.games.map fun game =>
              String.ofList (game.name.toList.rightpad 24 ' ') ++ " " ++
                Path.join (Path.parent file) game.filename
          result := .ok .finished }
  unknown :
    ∀ name, options.program = some name →
      ((outcome read arguments).result =
          .error (.gameUnknown name file) ↔
        ∀ game ∈ catalog.games, ¬ SameLetters game.name name)
  /-- A name stands for the path of the first game that bears it. -/
  selected :
    ∀ name game, options.program = some name →
      catalog.Selects name game →
      let path := Path.join (Path.parent file) game.filename
      outcome read arguments =
          proceed options [.gameLoading game.name]
            (.catalog (.programUnreadable game.name path)) (read path) ∧
        (options.disassemble = true →
          ∀ direct directOptions,
            Options.ofArguments direct = .ok directOptions →
            directOptions.library = none →
            directOptions.program = some path →
            directOptions.disassemble = true →
            ((outcome read arguments).Succeeds ↔
                (outcome read direct).Succeeds) ∧
              (outcome read arguments).lines =
                (outcome read direct).lines)

theorem selectsAsListed
    (parsed : Options.ofArguments arguments = .ok options)
    (hasLibrary : options.library = some file)
    (opened : Catalog.ofFile file (read file) = .ok catalog) :
    SelectsAsListed read arguments options file catalog := by
  have root : catalog.root = Path.parent file :=
    Catalog.root_ofFile opened
  refine ⟨fun unnamed => ?listed, fun name named => ?unknown, ?selected⟩
  case listed =>
    rw [outcome_listed parsed hasLibrary opened unnamed, ← root]
    rfl
  case unknown =>
    rw [← Catalog.find?_eq_none_iff]
    cases selected : catalog.find? name with
    | none =>
        rw [outcome_unselected parsed hasLibrary opened named selected]
        simp only [Outcome.failed]
    | some game =>
        rw [outcome_selected parsed hasLibrary opened named selected]
        have known := proceed_ne_gameUnknown name file options
        simp only [known, reduceCtorEq]
  case selected =>
    intro name game named selects path
    have selected := (catalog.find?_eq_some_iff name game).mpr selects
    have isPath : catalog.programPath game = path := by
      rw [Catalog.programPath, root]
    have continued :=
      outcome_selected parsed hasLibrary opened named selected
    rw [isPath] at continued
    refine ⟨continued, ?_⟩
    intro disassemble direct directOptions directParsed noLibrary
      directNamed directDisassemble
    rw [continued, outcome_direct directParsed noLibrary directNamed]
    exact proceed_agree disassemble directDisassemble (read path)

/-- The two ways to name a program agree, and what is only listed is the same whatever
the settings of the console are. -/
theorem catalog_agrees_with_paths
    (read : String → Option (List UInt8))
    {arguments : List String} {options : Options}
    (parsed : Options.ofArguments arguments = .ok options) :
    (∀ file, options.library = some file →
      match Catalog.ofFile file (read file) with
      | .error error =>
          outcome read arguments = .failed [] (.catalog error)
      | .ok catalog =>
          SelectsAsListed read arguments options file catalog) ∧
      ∀ others otherOptions,
        Options.ofArguments others = .ok otherOptions →
        options.SameRequest otherOptions → options.ListsOnly →
        outcome read others = outcome read arguments := by
  constructor
  · intro file hasLibrary
    cases opened : Catalog.ofFile file (read file) with
    | error error => exact outcome_unopened parsed hasLibrary opened
    | ok catalog => exact selectsAsListed parsed hasLibrary opened
  · intro others otherOptions otherParsed same listsOnly
    exact outcome_congr parsed otherParsed same listsOnly

/-- Two games with one name up to case, and a rate that no program could be played
with. -/
theorem catalog_agrees_with_paths_duplicate :
    let listed := "[[\"Pong\", \"PONG\"], [\"pong\", \"OTHER\"]]"
    let tree :=
      (FileTree.empty.add "games/list.json"
        listed.toUTF8.data.toList).add "games/PONG" [0x12, 0x00, 0xFF]
    let arguments :=
      ["--library", "games/list.json", "PONG", "--disassemble", "--rate=0"]
    let seeded :=
      ["--library", "games/list.json", "PONG", "--disassemble", "--seed=7"]
    let direct := ["--disassemble", "--", "games/PONG"]
    let options : Options :=
      { program := some "PONG"
        library := some "games/list.json"
        rate := some 0
        disassemble := true }
    Options.ofArguments arguments = .ok options ∧
      ((outcome tree.read? arguments).Succeeds ↔
        (outcome tree.read? direct).Succeeds) ∧
      (outcome tree.read? arguments).lines =
        ["0200  1200  JP 0x200"] ∧
      outcome tree.read? seeded = outcome tree.read? arguments := by
  intro listed tree arguments seeded direct options
  have parsed : Options.ofArguments arguments = .ok options := by
    decide +kernel
  have opened :
      Catalog.ofFile "games/list.json" (tree.read? "games/list.json") =
        .ok ⟨"games", [⟨"Pong", "PONG"⟩, ⟨"pong", "OTHER"⟩]⟩ := by
    decide +kernel
  have same : SameLetters "Pong" "PONG" :=
    (sameName_iff _ _).mp (by decide +kernel)
  obtain ⟨catalogued, indifferent⟩ :=
    catalog_agrees_with_paths tree.read? parsed
  have selects := catalogued "games/list.json" rfl
  rw [opened] at selects
  obtain ⟨_, agreement⟩ := selects.selected "PONG" ⟨"Pong", "PONG"⟩ rfl
    ⟨[], [⟨"pong", "OTHER"⟩], rfl, same, by simp⟩
  obtain ⟨succeeds, lines⟩ :=
    agreement rfl direct _ (ofArguments_disassemble "games/PONG") rfl
      (by decide +kernel) rfl
  refine ⟨parsed, succeeds, lines.trans (by decide +kernel), ?_⟩
  exact indifferent seeded
    { options with rate := none, seed := some 7 } (by decide +kernel)
    ⟨rfl, rfl, rfl⟩ (.inl rfl)

end CommandLine

end ChipEight
