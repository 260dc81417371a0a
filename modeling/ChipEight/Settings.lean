import ChipEight.Dimensions
import ChipEight.Fault
import ChipEight.KeyStream
import ChipEight.Ticker

/-!
# Settings

What can be chosen about a console before it starts: the rate of its
instructions, the rate at which its screen is sampled if it does so by itself,
and a seed for its random source.  The timers always count at their own rate.
-/

namespace ChipEight

/-- The choices for one console. -/
structure Settings where
  cycleRate : UInt32 := nominalCycleRate
  presentationRate : Option UInt32 := none
  seed : Option UInt64 := none
  deriving DecidableEq, Repr

namespace Settings

/-- Whether a rate is above zero and leaves at least a nanosecond between two
firings. -/
def rateValid (hertz : UInt32) : Bool :=
  hertz != 0 && hertz.toNat ≤ Ticker.second

/-- Refuses the first rate that no clock can keep, the cycle rate before the
presentation rate. -/
def validate (settings : Settings) : Except SetupError Unit :=
  if !rateValid settings.cycleRate then
    .error (.invalidRate "cycle" settings.cycleRate)
  else
    match settings.presentationRate with
    | none => .ok ()
    | some hertz =>
        if rateValid hertz then
          .ok ()
        else
          .error (.invalidRate "presentation" hertz)

/-- The random source of a console; without a seed it is the one of seed
zero. -/
def source (settings : Settings) : KeyStream :=
  KeyStream.ofSeed (settings.seed.getD 0)

end Settings

end ChipEight
