/-
Doubles in base ten: the fewest digits that read back.

A finite double is `m · 2 ^ q`.  The decimals that read back as this double are those between the
middles of the gaps to its two neighbours, the middles themselves included when `m` is even.  For
one digit, two digits and so on, the two decimals on both sides of the double are tried; the first
that reads back is taken, and of two the nearer one.
-/
import SwatchIndex.Decimal.Double
import SwatchIndex.Numeral

namespace SwatchIndex.Decimal

/-! ### Reading -/

/-- The double nearest to `mantissa · 10 ^ exponent`.  Numbers beyond the range of doubles are told
by the place of their first digit, without writing them out. -/
def toDouble (negative : Bool) (mantissa : Nat) (exponent : Int) : Float :=
  let first := Int.ofNat (Nat.toDigits 10 mantissa).length + exponent
  let size :=
    if mantissa == 0 || first < -400 then 0.0
    else if 400 < first then 1.0 / 0.0
    else
      match exponent with
      | .ofNat e => Float.ofScientific mantissa false e
      | .negSucc e => Float.ofScientific mantissa true (e + 1)
  if negative then -size else size

/-! ### The interval of a double -/

/-- A positive fraction, up to a common factor of both numbers. -/
structure Fraction where
  num : Nat
  den : Nat

/-- `base ^ e` as a fraction. -/
def Fraction.power (base : Nat) : Int → Fraction
  | .ofNat e => ⟨base.pow e, 1⟩
  | .negSucc e => ⟨1, base.pow (e + 1)⟩

/-- The decimals that read back as the double `m · 2 ^ q`, in quarters of `2 ^ q`. -/
structure Gap where
  m : Nat
  q : Int
  /-- The gap to the neighbour below is half as wide. -/
  narrow : Bool

namespace Gap

/-- The quarter of the last binary digit. -/
def unit (g : Gap) : Fraction := .power 2 (g.q - 2)

/-- The double itself, in quarters. -/
def middle (g : Gap) : Nat := 4 * g.m

/-- The lower end, in quarters. -/
def least (g : Gap) : Nat := if g.narrow then 4 * g.m - 1 else 4 * g.m - 2

/-- The upper end, in quarters. -/
def greatest (g : Gap) : Nat := 4 * g.m + 2

/-- Whether `d · 10 ^ e` reads back. -/
def holds (g : Gap) (d : Nat) (e : Int) : Bool :=
  let ten := Fraction.power 10 e
  let x := d * ten.num * g.unit.den
  let least := g.least * g.unit.num * ten.den
  let greatest := g.greatest * g.unit.num * ten.den
  if g.m % 2 == 0 then least ≤ x && x ≤ greatest else least < x && x < greatest

/-- The number of times that `10 ^ e` goes into the double. -/
def quotient (g : Gap) (e : Int) : Nat :=
  let ten := Fraction.power 10 e
  g.middle * g.unit.num * ten.den / (g.unit.den * ten.num)

/-- Whether `d · 10 ^ e` is at most as far below the double as `(d + 1) · 10 ^ e` is above it; of
two equally near ones the even one counts as nearer. -/
def lowerIsNearer (g : Gap) (d : Nat) (e : Int) : Bool :=
  let ten := Fraction.power 10 e
  let both := (2 * d + 1) * ten.num * g.unit.den
  let twice := 2 * g.middle * g.unit.num * ten.den
  twice < both || (twice == both && d % 2 == 0)

/-- The exponent of the double's first digit, sought from `e` downwards. -/
def firstExponent (g : Gap) : Nat → Int → Int
  | 0, e => e
  | fuel + 1, e => if 0 < g.quotient e then e else firstExponent g fuel (e - 1)

/-- The first decimal that reads back, with `n` digits or more. -/
def shortestFrom (g : Gap) (first : Int) : Nat → Nat → Nat × Int
  | 0, n => (g.quotient (first - n + 1), first - n + 1)
  | fuel + 1, n =>
    let e := first - n + 1
    let d := g.quotient e
    match g.holds d e, g.holds (d + 1) e with
    | true, true => if g.lowerIsNearer d e then (d, e) else (d + 1, e)
    | true, false => (d, e)
    | false, true => (d + 1, e)
    | false, false => shortestFrom g first fuel (n + 1)

end Gap

/-- The digits of a positive double and the exponent of its last digit. -/
def shortest (g : Gap) : Nat × Int := g.shortestFrom (g.firstExponent 700 309) 17 1

/-! ### Writing -/

/-- A number without the zeros at its end, and how many these were. -/
def trimZeros : Nat → Nat → Nat × Nat
  | 0, d => (d, 0)
  | fuel + 1, d =>
    if d != 0 && d % 10 == 0 then
      let (d, zeros) := trimZeros fuel (d / 10)
      (d, zeros + 1)
    else (d, 0)

/-- A positive number of the given digits and exponent: positional from `10 ^ -4` up to `10 ^ 16`,
else with an exponent of at least two digits. -/
def write (d : Nat) (e : Int) : String :=
  let (d, zeros) := trimZeros 20 d
  let e := e + zeros
  let digits := Nat.toDigits 10 d
  let point := Int.ofNat digits.length + e
  if -4 < point && point ≤ 16 then
    if point ≤ 0 then
      Text.str ("0.".toList ++ List.replicate (-point).toNat '0' ++ digits)
    else
      let whole := digits.take point.toNat
      let fraction := digits.drop point.toNat
      Text.str (whole ++ List.replicate (point.toNat - whole.length) '0' ++ ['.'] ++
        (if fraction.isEmpty then ['0'] else fraction))
  else
    let exponent := point - 1
    let mantissa :=
      match digits with
      | [first] => [first]
      | first :: rest => first :: '.' :: rest
      | [] => []
    let size := Nat.toDigits 10 exponent.natAbs
    Text.str (mantissa ++ ['e', if exponent < 0 then '-' else '+'] ++
      List.replicate (2 - size.length) '0' ++ size)

/-- A sign in front of a number in writing. -/
def signed (negative : Bool) (size : String) : String := if negative then "-" ++ size else size

/-- A double in writing.  The gap below a power of two is half as wide, unless the neighbour there
has the same exponent. -/
def ofDouble (x : Float) : String :=
  match Double.ofFloat x with
  | .nan => "nan"
  | .infinite negative => signed negative "inf"
  | .finite negative 0 _ => signed negative "0.0"
  | .finite negative mantissa exponent =>
    let (d, e) := shortest ⟨mantissa, exponent, mantissa == 1 <<< 52 && -1074 < exponent⟩
    signed negative (write d e)

end SwatchIndex.Decimal
