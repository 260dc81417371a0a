import ChipEight.Json.Value
import ChipEight.Path
import ChipEight.Text.Units

/-!
# Game catalogs

A catalog is a JSON array of games.  A game is an object with a name and a file
name among its members, or an array of just these two strings.  Each is given
exactly once; members with other keys are ignored.  File names are relative to
the directory of the catalog.
-/

namespace ChipEight

/-- An entry of a catalog. -/
structure Game where
  name : String
  filename : String
  deriving DecidableEq, Repr

/-- Some games and the directory that their file names are relative to. -/
structure Catalog where
  root : String
  games : List Game
  deriving DecidableEq, Repr

/-- Why a catalog or one of its games is of no use. -/
inductive CatalogError where
  | unreadable (path : String)
  | malformed (path : String)
  | programUnreadable (name path : String)
  deriving DecidableEq, Repr

def CatalogError.message : CatalogError → String
  | .unreadable path => "failed to read game library " ++ path
  | .malformed path => "failed to parse game library " ++ path
  | .programUnreadable name path =>
      "failed to read " ++ name ++ " from " ++ path

namespace Game

/-- The two fields of a game, each absent until it has been read. -/
structure Draft where
  name : Option String
  filename : Option String
  deriving DecidableEq, Repr

/-- The string that a value is, if it is one. -/
def text? : Json.Value → Option String
  | .text units => (Text.Units.decode units).map String.ofList
  | _ => none

/-- A draft with one more member read.  A field that was read before, or that is
no string, is refused, and so is a key that is no text. -/
def Draft.read? (draft : Draft) (member : List Nat × Json.Value) :
    Option Draft :=
  (Text.Units.decode member.1).bind fun key =>
    if key = "name".toList then
      match draft.name with
      | some _ => none
      | none =>
          (text? member.2).map fun name =>
            { draft with name := some name }
    else if key = "filename".toList then
      match draft.filename with
      | some _ => none
      | none =>
          (text? member.2).map fun filename =>
            { draft with filename := some filename }
    else
      some draft

def ofMembers? (members : List (List Nat × Json.Value)) : Option Game :=
  (members.foldlM Draft.read? ⟨none, none⟩).bind fun draft =>
    match draft.name, draft.filename with
    | some name, some filename => some ⟨name, filename⟩
    | _, _ => none

def ofValue? : Json.Value → Option Game
  | .object members => ofMembers? members
  | .array [name, filename] =>
      (text? name).bind fun name =>
        (text? filename).map fun filename => ⟨name, filename⟩
  | _ => none

end Game

namespace Catalog

/-- The games that a value lists. -/
def gamesOfValue? : Json.Value → Option (List Game)
  | .array items => items.mapM Game.ofValue?
  | _ => none

def gamesOfText? (text : String) : Option (List Game) :=
  (Json.Value.ofText? text.toList).bind gamesOfValue?

def textOfBytes? (bytes : List UInt8) : Option String :=
  String.fromUTF8? ⟨bytes.toArray⟩

/-- The catalog at a path, given the bytes found there, if any. -/
def ofFile (path : String) (bytes : Option (List UInt8)) :
    Except CatalogError Catalog :=
  match bytes.bind textOfBytes? with
  | none => .error (.unreadable path)
  | some text =>
      match gamesOfText? text with
      | none => .error (.malformed path)
      | some games => .ok { root := Path.parent path, games := games }

/-- Whether two names are the same up to the case of their ASCII letters. -/
def sameName (left right : String) : Bool :=
  left.toList.map Char.toLower == right.toList.map Char.toLower

def find? (catalog : Catalog) (name : String) : Option Game :=
  catalog.games.find? fun game => sameName game.name name

def programPath (catalog : Catalog) (game : Game) : String :=
  Path.join catalog.root game.filename

/-- The program of a game, given the bytes found at its path, if any. -/
def programOf (catalog : Catalog) (game : Game)
    (bytes : Option (List UInt8)) : Except CatalogError (List UInt8) :=
  match bytes with
  | some program => .ok program
  | none =>
      .error (.programUnreadable game.name (catalog.programPath game))

end Catalog

end ChipEight
