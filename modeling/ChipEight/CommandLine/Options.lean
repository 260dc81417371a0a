import ChipEight.Settings
import ChipEight.Text.Numeral

/-!
# Command line options

Arguments are read in order, and the first problem decides.  An option with a
value takes it from behind an equals sign or from the next argument, which must
not look like an option then.  A value is looked at only when the argument behind
it has turned out to be acceptable: an unknown option is reported before a bad
value in front of it.  Behind two dashes everything is positional.

Long options are written in full.  A short option is a single letter, and its
value may follow at once.
-/

namespace ChipEight.CommandLine

/-- Why the arguments were refused, or what they ask for instead. -/
inductive UsageError where
  /-- An unknown option, or a second positional argument. -/
  | unknownArgument
  | missingValue
  | emptyPath
  /-- A value that is no number of the right size. -/
  | invalidNumber
  | repeated
  /-- A value for an option that takes none. -/
  | surplusValue
  | helpRequested
  | versionRequested
  deriving DecidableEq, Repr

namespace UsageError

def message : UsageError → String
  | .unknownArgument => "unexpected argument"
  | .missingValue => "a value is required"
  | .emptyPath => "a value is required"
  | .invalidNumber => "invalid number"
  | .repeated => "an option cannot be used multiple times"
  | .surplusValue => "unexpected value"
  | .helpRequested => "help requested"
  | .versionRequested => "version requested"

end UsageError

/-- The options that take a value. -/
inductive Setting where
  | rate
  | seed
  | scale
  | library
  deriving DecidableEq, Repr

/-- The options that take none. -/
inductive Switch where
  | disassemble
  | help
  | version
  deriving DecidableEq, Repr

/-- What the arguments say; an option that was not given is absent. -/
structure Options where
  program : Option String := none
  rate : Option UInt32 := none
  seed : Option UInt64 := none
  scale : Option UInt32 := none
  library : Option String := none
  disassemble : Bool := false
  deriving DecidableEq, Repr

namespace Options

/-- The settings of the console that the options ask for. -/
def settings (options : Options) : Settings :=
  { cycleRate := options.rate.getD nominalCycleRate
    seed := options.seed }

/-- The side of a pixel on the display of the host. -/
def pixelSize (options : Options) : UInt32 :=
  options.scale.getD 10

/-- Whether an option was given a value. -/
def has (options : Options) : Setting → Bool
  | .rate => options.rate.isSome
  | .seed => options.seed.isSome
  | .scale => options.scale.isSome
  | .library => options.library.isSome

def readWord? (text : String) : Option UInt32 :=
  ((Text.readSigned? text.toList).filter (· < UInt32.size)).map UInt32.ofNat

def readSeed? (text : String) : Option UInt64 :=
  ((Text.readNatural? text.toList).filter (· < UInt64.size)).map UInt64.ofNat

/-- The options with one more value read. -/
def accept (options : Options) (setting : Setting) (text : String) :
    Except UsageError Options :=
  if options.has setting then
    .error .repeated
  else
    match setting with
    | .rate =>
        match readWord? text with
        | some rate => .ok { options with rate := some rate }
        | none => .error .invalidNumber
    | .seed =>
        match readSeed? text with
        | some seed => .ok { options with seed := some seed }
        | none => .error .invalidNumber
    | .scale =>
        match readWord? text with
        | some scale => .ok { options with scale := some scale }
        | none => .error .invalidNumber
    | .library =>
        if text = "" then
          .error .emptyPath
        else
          .ok { options with library := some text }

end Options

inductive Mark where
  | setting (setting : Setting)
  | switch (switch : Switch)
  deriving DecidableEq, Repr

namespace Mark

/-- The option with a long name. -/
def long? (name : String) : Option Mark :=
  match name with
  | "rate" => some (.setting .rate)
  | "seed" => some (.setting .seed)
  | "scale" => some (.setting .scale)
  | "library" => some (.setting .library)
  | "disassemble" => some (.switch .disassemble)
  | "help" => some (.switch .help)
  | "version" => some (.switch .version)
  | _ => none

/-- The option with a short name. -/
def short? (letter : Char) : Option Mark :=
  match letter with
  | 'r' => some (.setting .rate)
  | 'h' => some (.switch .help)
  | 'V' => some (.switch .version)
  | _ => none

end Mark

/-- An option whose value has not been looked at, and that value once it is
known. -/
structure Pending where
  setting : Setting
  text : Option String
  deriving DecidableEq, Repr

/-- The arguments read so far. -/
structure Reading where
  options : Options := {}
  pending : Option Pending := none
  onlyPositional : Bool := false
  deriving DecidableEq, Repr

namespace Reading

/-- Looks at the value of the pending option. -/
def settle (reading : Reading) : Except UsageError Reading :=
  match reading.pending with
  | none => .ok reading
  | some pending =>
      match pending.text with
      | none => .error .missingValue
      | some text =>
          (reading.options.accept pending.setting text).map fun options =>
            { reading with options := options, pending := none }

def withValue (reading : Reading) (setting : Setting) (text : String) :
    Except UsageError Reading :=
  reading.settle.bind fun settled =>
    (settled.options.accept setting text).map fun options =>
      { settled with options := options }

/-- Reads an option whose value is the next argument. -/
def awaitValue (reading : Reading) (setting : Setting) :
    Except UsageError Reading :=
  reading.settle.map fun settled =>
    { settled with pending := some ⟨setting, none⟩ }

def flip (reading : Reading) (switch : Switch) :
    Except UsageError Reading :=
  reading.settle.bind fun settled =>
    match switch with
    | .help => .error .helpRequested
    | .version => .error .versionRequested
    | .disassemble =>
        if settled.options.disassemble then
          .error .repeated
        else
          .ok
            { settled with
              options := { settled.options with disassemble := true } }

def positional (reading : Reading) (argument : String) :
    Except UsageError Reading :=
  if reading.options.program.isSome then
    .error .unknownArgument
  else
    reading.settle.map fun settled =>
      { settled with
        options := { settled.options with program := some argument } }

/-- Reads an argument that does not look like an option: the value of a pending
option that has none yet, or a positional argument. -/
def plain (reading : Reading) (argument : String) :
    Except UsageError Reading :=
  match reading.pending with
  | some ⟨setting, none⟩ =>
      .ok { reading with pending := some ⟨setting, some argument⟩ }
  | _ => reading.positional argument

/-- Reads a long option, given what follows its dashes. -/
def long (reading : Reading) (body : List Char) :
    Except UsageError Reading :=
  let name := String.ofList (body.takeWhile (· != '='))
  match Mark.long? name, body.dropWhile (· != '=') with
  | none, _ => .error .unknownArgument
  | some (.setting setting), [] => reading.awaitValue setting
  | some (.setting setting), _ :: value =>
      reading.withValue setting (String.ofList value)
  | some (.switch switch), [] => reading.flip switch
  | some (.switch _), _ :: _ => .error .surplusValue

/-- Reads short options, given what follows their dash. -/
def short (reading : Reading) : List Char → Except UsageError Reading
  | [] => .ok reading
  | letter :: rest =>
      match Mark.short? letter, rest with
      | none, _ => .error .unknownArgument
      | some (.setting setting), [] => reading.awaitValue setting
      | some (.setting setting), '=' :: value =>
          reading.withValue setting (String.ofList value)
      | some (.setting setting), value =>
          reading.withValue setting (String.ofList value)
      | some (.switch switch), rest =>
          (reading.flip switch).bind fun flipped => flipped.short rest

def step (reading : Reading) (argument : String) :
    Except UsageError Reading :=
  if reading.onlyPositional then
    reading.positional argument
  else
    match argument.toList with
    | ['-', '-'] => .ok { reading with onlyPositional := true }
    | '-' :: '-' :: body => reading.long body
    | '-' :: letter :: rest => reading.short (letter :: rest)
    | _ => reading.plain argument

end Reading

/-- The options that arguments spell. -/
def Options.ofArguments (arguments : List String) :
    Except UsageError Options :=
  let start : Reading := {}
  (arguments.foldlM Reading.step start).bind fun reading =>
    reading.settle.map Reading.options

end ChipEight.CommandLine
