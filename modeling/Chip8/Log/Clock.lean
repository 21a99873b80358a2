/-!
# The clock

A clock gives one reading after another, in seconds, and counts how many it has
given.
-/

namespace Chip8.Log

structure Clock where
  /-- The reading at each position, from zero. -/
  reading : Nat → Float
  taken : Nat := 0

def Clock.read (clock : Clock) : Float × Clock :=
  (clock.reading clock.taken, { clock with taken := clock.taken + 1 })

end Chip8.Log
