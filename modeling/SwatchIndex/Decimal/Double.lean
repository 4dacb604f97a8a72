/-
What a double is.

A finite double is a sign and a whole number times a power of two.  The bits give the sign, the
exponent and the fraction; a number without the leading one of the others has the least exponent.
Whole numbers have such parts too, so that the two can be compared without rounding.
-/

namespace SwatchIndex

/-- A double by its parts. -/
inductive Double where
  | nan
  | infinite (negative : Bool)
  /-- The number `mantissa · 2 ^ exponent`, or its negative. -/
  | finite (negative : Bool) (mantissa : Nat) (exponent : Int)
deriving DecidableEq, Repr

namespace Double

/-- The parts of a double. -/
def ofFloat (x : Float) : Double :=
  let bits := x.toBits.toNat
  let negative := bits >>> 63 == 1
  let exponent := (bits >>> 52) % 2048
  let fraction := bits % (1 <<< 52)
  if exponent == 2047 then if fraction == 0 then .infinite negative else .nan
  else if exponent == 0 then .finite negative fraction (-1074)
  else .finite negative ((1 <<< 52) + fraction) (Int.ofNat exponent - 1075)

/-- The parts of a whole number. -/
def ofInt (n : Int) : Double := .finite (decide (n < 0)) n.natAbs 0

/-- A size with its sign. -/
def signed (negative : Bool) (size : Nat) : Int :=
  if negative then -Int.ofNat size else Int.ofNat size

/-- Whether a number is less than another one, without rounding.  What is no number is neither less
nor greater. -/
def less : Double → Double → Bool
  | .nan, _ => false
  | _, .nan => false
  | .infinite a, .infinite b => a && !b
  | .infinite a, .finite .. => a
  | .finite .., .infinite b => !b
  | .finite a m e, .finite b n f =>
    decide (signed a (m <<< (e - f).toNat) < signed b (n <<< (f - e).toNat))

/-- Whether two numbers are the same. -/
def same (x y : Double) : Bool := (x == .nan) == (y == .nan) && !less x y && !less y x

/-- The whole part of a finite double: what is behind the point is dropped. -/
def whole? : Double → Option Int
  | .finite negative mantissa exponent =>
    let size :=
      match exponent with
      | .ofNat e => mantissa <<< e
      | .negSucc e => mantissa >>> (e + 1)
    some (signed negative size)
  | _ => none

end Double

end SwatchIndex
