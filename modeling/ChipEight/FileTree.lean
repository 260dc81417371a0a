import ChipEight.Path

/-!
# File trees

Files below one directory, held in memory.  A place is the list of names that
leads to it from the top.  Reading follows a path segment by segment: two dots
go up, and all but the last segment have to name directories.  Nothing lies
above the top, and nothing at the root of the system.
-/

namespace ChipEight

/-- The directories below the top and the files with their contents. -/
structure FileTree where
  directories : List (List (List Char))
  files : List (List (List Char) × List UInt8)
  deriving DecidableEq, Repr

namespace FileTree

def empty : FileTree where
  directories := []
  files := []

def isDirectory (tree : FileTree) (place : List (List Char)) : Bool :=
  place == [] || tree.directories.contains place

/-- Where one segment leads from a place. -/
def follow (place : List (List Char)) (segment : List Char) :
    Option (List (List Char)) :=
  if Path.isIdle segment then
    some place
  else if segment = ['.', '.'] then
    if place = [] then none else some place.dropLast
  else
    some (place ++ [segment])

/-- Where one segment leads from a directory. -/
def enter (tree : FileTree) (place : List (List Char))
    (segment : List Char) : Option (List (List Char)) :=
  if tree.isDirectory place then follow place segment else none

def resolve? (tree : FileTree) (path : List Char) :
    Option (List (List Char)) :=
  if path = [] ∨ Path.isAbsolute path then
    none
  else
    (Path.segments path).foldlM tree.enter []

/-- The contents of the file that a path names. -/
def read? (tree : FileTree) (path : String) : Option (List UInt8) :=
  (tree.resolve? path.toList).bind fun place =>
    (tree.files.find? fun file => file.1 == place).map Prod.snd

/-- The tree with the directory of a file made, and all directories on the way
to it; the second component is the place of the directory. -/
def makeDirectories (tree : FileTree) (segments : List (List Char)) :
    Option (FileTree × List (List Char)) :=
  segments.foldlM
    (fun (made : FileTree × List (List Char)) segment =>
      (follow made.2 segment).map fun place =>
        ({ made.1 with directories := place :: made.1.directories },
          place))
    (tree, [])

/-- The tree with one more file.  A path that leads out of the tree adds
nothing. -/
def add (tree : FileTree) (path : String) (bytes : List UInt8) :
    FileTree :=
  let segments := Path.segments path.toList
  let added :=
    (tree.makeDirectories segments.dropLast).bind fun (made, place) =>
      (segments.getLast?.bind (follow place)).map fun place =>
        { made with files := (place, bytes) :: made.files }
  added.getD tree

end FileTree

end ChipEight
