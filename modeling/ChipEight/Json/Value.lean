import ChipEight.Json.Token

/-!
# Values of JSON

A value is put together from tokens by a machine that keeps the arrays and
objects it is inside of on a stack, so that values may nest to any depth.
Members of an object keep their order, and a key may occur more than once.
-/

namespace ChipEight.Json

/-- A value of JSON.  Numbers are kept as they are written, strings and keys as
code units. -/
inductive Value where
  | null
  | truth (value : Bool)
  | number (digits : List Char)
  | text (units : List Nat)
  | array (items : List Value)
  | object (members : List (List Nat × Value))
  deriving Repr

/-- An array or object that is not finished; what it has so far stands with the
latest first. -/
inductive Frame where
  /-- An array with some items. -/
  | items (before : List Value)
  /-- An object with some members. -/
  | members (before : List (List Nat × Value))
  /-- An object with some members and the key of the next one. -/
  | keyed (key : List Nat) (before : List (List Nat × Value))
  deriving Repr

/-- Which tokens may come next. -/
inductive Expectation where
  | value
  /-- A value, or the end of an empty array. -/
  | valueOrEnd
  | key
  /-- A key, or the end of an empty object. -/
  | keyOrEnd
  | colon
  /-- A comma, or the end of the innermost array or object. -/
  | separator
  deriving DecidableEq, Repr

/-- The state of the machine. -/
inductive Assembly where
  /-- Inside some arrays and objects, the innermost first. -/
  | inside (frames : List Frame) (expectation : Expectation)
  /-- Behind the whole value. -/
  | complete (value : Value)
  deriving Repr

namespace Assembly

def start : Assembly :=
  .inside [] .value

/-- The machine behind a value. -/
def place (value : Value) : List Frame → Option Assembly
  | [] => some (.complete value)
  | .items before :: rest =>
      some (.inside (.items (value :: before) :: rest) .separator)
  | .keyed key before :: rest =>
      some (.inside (.members ((key, value) :: before) :: rest) .separator)
  | .members _ :: _ => none

def beginValue (frames : List Frame) : Token → Option Assembly
  | .openArray => some (.inside (.items [] :: frames) .valueOrEnd)
  | .openObject => some (.inside (.members [] :: frames) .keyOrEnd)
  | .null => place .null frames
  | .truth value => place (.truth value) frames
  | .number digits => place (.number digits) frames
  | .text units => place (.text units) frames
  | _ => none

def endInnermost (frames : List Frame) (token : Token) :
    Option Assembly :=
  match token, frames with
  | .closeArray, .items before :: rest =>
      place (.array before.reverse) rest
  | .closeObject, .members before :: rest =>
      place (.object before.reverse) rest
  | _, _ => none

def beginMember (frames : List Frame) (token : Token) :
    Option Assembly :=
  match token, frames with
  | .text key, .members before :: rest =>
      some (.inside (.keyed key before :: rest) .colon)
  | _, _ => none

def goOn : List Frame → Option Assembly
  | .items before :: rest =>
      some (.inside (.items before :: rest) .value)
  | .members before :: rest =>
      some (.inside (.members before :: rest) .key)
  | _ => none

/-- The machine after one more token, unless the token cannot stand there. -/
def step (assembly : Assembly) (token : Token) : Option Assembly :=
  match assembly with
  | .complete _ => none
  | .inside frames expectation =>
      match expectation with
      | .value => beginValue frames token
      | .valueOrEnd =>
          if token = .closeArray then
            endInnermost frames token
          else
            beginValue frames token
      | .key => beginMember frames token
      | .keyOrEnd =>
          if token = .closeObject then
            endInnermost frames token
          else
            beginMember frames token
      | .colon =>
          if token = .colon then some (.inside frames .value) else none
      | .separator =>
          if token = .comma then
            goOn frames
          else
            endInnermost frames token

/-- The value read, if it is complete. -/
def finish : Assembly → Option Value
  | .complete value => some value
  | .inside _ _ => none

end Assembly

/-- The value that tokens spell, unless they spell none. -/
def Value.ofTokens? (tokens : List Token) : Option Value :=
  (tokens.foldlM Assembly.step Assembly.start).bind Assembly.finish

/-- The value that a text spells, unless it spells none. -/
def Value.ofText? (text : List Char) : Option Value :=
  (Token.ofText? text).bind Value.ofTokens?

end ChipEight.Json
