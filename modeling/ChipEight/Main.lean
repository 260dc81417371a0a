import ChipEight.CommandLine.Run

/-!
# The command

Reads files, prints what the command line asks for, and writes notices and
errors to the standard error stream.  There is no window to play a program in,
so a program that could be played is only checked.
-/

namespace ChipEight.Command

def readFile (path : String) : IO (Option (List UInt8)) := do
  try
    let bytes ← IO.FS.readBinFile path
    return some bytes.data.toList
  catch _ =>
    return none

def usage : List String :=
  [ "Chip-8 emulator",
    "",
    "Usage: chip8 [OPTIONS] [ROM]",
    "",
    "  -r, --rate <RATE>        Instructions executed per second",
    "      --seed <SEED>        Seed for the random number generator",
    "      --scale <SCALE>      Size of each pixel on screen",
    "      --library <LIBRARY>  JSON game catalog; lists it when no game is named",
    "      --disassemble        Print the listing of the ROM instead of running it",
    "  -h, --help               Print help",
    "  -V, --version            Print version" ]

/-- Prints the outcome of a command line and gives the exit code. -/
def report (outcome : CommandLine.Outcome) : IO UInt32 := do
  for notice in outcome.notices do
    IO.eprintln notice.line
  for line in outcome.lines do
    IO.println line
  match outcome.result with
  | .ok _ => return 0
  | .error (.usage .helpRequested) =>
      for line in usage do
        IO.println line
      return 0
  | .error (.usage .versionRequested) =>
      IO.println "chip8"
      return 0
  | .error (.usage error) =>
      IO.eprintln ("error: " ++ error.message)
      return 2
  | .error failure =>
      IO.eprintln ("Error: " ++ failure.message)
      return 1

end ChipEight.Command

/-- Carries out the command line it is given. -/
def main (arguments : List String) : IO UInt32 := do
  let outcome ←
    ChipEight.CommandLine.run ChipEight.Command.readFile arguments
  ChipEight.Command.report outcome
