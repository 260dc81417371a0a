/-!
# Paths

The names of files, made of segments with slashes between them.  Empty segments
and single dots in the middle or at the end of a path mean nothing; a slash or a
dot at its start is kept.
-/

namespace ChipEight.Path

/-- The segments of a path, between its slashes. -/
def segments : List Char → List (List Char)
  | [] => [[]]
  | char :: rest =>
      if char = '/' then
        [] :: segments rest
      else
        match segments rest with
        | segment :: more => (char :: segment) :: more
        | [] => [[char]]

/-- Whether a segment means nothing. -/
def isIdle (segment : List Char) : Bool :=
  segment == [] || segment == ['.']

/-- The start of a path that is kept whatever follows: a slash, or a dot that is
a segment of its own. -/
def anchor : List Char → List Char
  | '/' :: _ => ['/']
  | ['.'] => ['.']
  | '.' :: '/' :: _ => ['.']
  | _ => []

def isAbsolute (path : List Char) : Bool :=
  path.head? == some '/'

/-- The path of the directory that holds a file; empty if the path names
none. -/
def parentOf (path : List Char) : List Char :=
  let start := anchor path
  let body := (segments (path.drop start.length)).reverse
  match body.dropWhile isIdle with
  | [] => []
  | _ :: rest =>
      start ++ List.intercalate ['/'] (rest.dropWhile isIdle).reverse

/-- A path taken relative to a directory; one that starts at the root stays as
it is. -/
def joinTo (directory path : List Char) : List Char :=
  if isAbsolute path then
    path
  else if directory = [] ∨ directory.getLast? = some '/' then
    directory ++ path
  else
    directory ++ '/' :: path

def parent (path : String) : String :=
  String.ofList (parentOf path.toList)

def join (directory path : String) : String :=
  String.ofList (joinTo directory.toList path.toList)

end ChipEight.Path
