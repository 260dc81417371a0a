import ChipEight.Catalog
import ChipEight.CommandLine.Options
import ChipEight.Listing
import ChipEight.Notice
import ChipEight.Text.Quoted

/-!
# Running a command line

What a command line asks for, up to the point where a program would be played:
the list of a catalog, the listing of a program, or a program with the settings
of the console it is to be played on.  Files are read by a function that is
given along.
-/

namespace ChipEight.CommandLine

/-- Why a command line could not be carried out. -/
inductive Failure where
  | usage (error : UsageError)
  | catalog (error : CatalogError)
  | gameUnknown (name path : String)
  | programUnreadable (path : String)
  /-- Neither a program nor a catalog was named. -/
  | nothingNamed
  | setup (error : SetupError)
  deriving DecidableEq, Repr

/-- What is left to do once a command line has been carried out. -/
inductive Conclusion where
  | finished
  | play (program : List UInt8) (settings : Settings) (pixelSize : UInt32)
  deriving DecidableEq, Repr

/-- The lines that were printed, the notices for the log, and how it ended. -/
structure Outcome where
  lines : List String := []
  notices : List Notice := []
  result : Except Failure Conclusion

namespace Failure

def message : Failure → String
  | .usage error => error.message
  | .catalog error => error.message
  | .gameUnknown name path =>
      "no game named " ++ Text.quoted name ++ " in " ++ path
  | .programUnreadable path => "failed to read ROM " ++ path
  | .nothingNamed =>
      "expected a ROM file, or --library to list a game catalog"
  | .setup error => error.message

end Failure

/-- Columns that the names in the list of a catalog are padded to. -/
def nameColumns : Nat := 24

/-- The line of a game in the list of a catalog. -/
def gameLine (catalog : Catalog) (game : Game) : String :=
  String.ofList (game.name.toList.rightpad nameColumns ' ') ++ " " ++
    catalog.programPath game

/-- The outcome of a failure before anything was printed. -/
def Outcome.failed (notices : List Notice) (failure : Failure) : Outcome where
  notices := notices
  result := .error failure

/-- Lists a program, or hands it on to be played if its settings are valid. -/
def conclude
    (options : Options) (notices : List Notice) (program : List UInt8) :
    Outcome :=
  if options.disassemble then
    { lines := Listing.print program
      notices := notices
      result := .ok .finished }
  else
    match options.settings.validate with
    | .error error => .failed notices (.setup error)
    | .ok _ =>
        { notices := notices
          result :=
            .ok (.play program options.settings options.pixelSize) }

variable {m : Type → Type} [Monad m]

/-- Lists a catalog, or goes on with a game in it. -/
def runCatalog
    (read : String → m (Option (List UInt8))) (options : Options)
    (path : String) : m Outcome := do
  let bytes ← read path
  match Catalog.ofFile path bytes with
  | .error error => pure (.failed [] (.catalog error))
  | .ok catalog =>
      match options.program with
      | none =>
          pure
            { lines := catalog.games.map (gameLine catalog)
              result := .ok .finished }
      | some name =>
          match catalog.find? name with
          | none => pure (.failed [] (.gameUnknown name path))
          | some game =>
              let loading := [Notice.gameLoading game.name]
              let bytes ← read (catalog.programPath game)
              match catalog.programOf game bytes with
              | .error error => pure (.failed loading (.catalog error))
              | .ok program => pure (conclude options loading program)

/-- Carries out the options of a command line. -/
def runOptions
    (read : String → m (Option (List UInt8))) (options : Options) :
    m Outcome :=
  match options.library, options.program with
  | some path, _ => runCatalog read options path
  | none, some path => do
      let bytes ← read path
      match bytes with
      | none => pure (.failed [] (.programUnreadable path))
      | some program => pure (conclude options [] program)
  | none, none => pure (.failed [] .nothingNamed)

/-- Carries out a command line. -/
def run
    (read : String → m (Option (List UInt8))) (arguments : List String) :
    m Outcome :=
  match Options.ofArguments arguments with
  | .error error => pure (.failed [] (.usage error))
  | .ok options => runOptions read options

end ChipEight.CommandLine
