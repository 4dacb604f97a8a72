/-
Stamps: when a file was written.

A file keeps its time in whole seconds and nanoseconds, and the stamp is the double that is made of
the two.  So times that differ by less than doubles can tell have the same stamp.  A file without a
time of its own is stamped by the tick of a clock at which it was written.
-/
import SwatchIndex.Decimal.Double

namespace SwatchIndex

/-- When a file was written: at a tick of the session's own clock, or at a time, which is given by
the bits of a double that counts seconds. -/
inductive Stamp where
  | tick (n : Nat)
  | time (bits : UInt64)
deriving DecidableEq, Repr

namespace Stamp

/-- The stamp of a time in whole seconds and nanoseconds. -/
def ofParts (seconds : Int) (nanoseconds : Nat) : Stamp :=
  .time (Float.ofInt seconds + 1.0e-9 * nanoseconds.toFloat).toBits

/-- The stamp of a time in seconds.  What is left of the second is cut to nanoseconds downwards, in
doubles; a negative rest is counted from the second before. -/
def ofSeconds (x : Float) : Stamp :=
  let whole := if x < 0.0 then x.ceil else x.floor
  let rest := ((x - whole) * 1.0e9).floor
  let part (y : Float) : Int := ((Double.ofFloat y).whole?).getD 0
  if rest < 0.0 then ofParts (part whole - 1) (part (rest + 1.0e9)).toNat
  else if 1.0e9 ≤ rest then ofParts (part whole + 1) (part (rest - 1.0e9)).toNat
  else ofParts (part whole) (part rest).toNat

end Stamp

end SwatchIndex
