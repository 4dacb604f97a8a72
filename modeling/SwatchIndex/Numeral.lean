/-
Numbers in base ten.

A numeral may have at most `Numeral.maxDigits` digits, leading zeros included; a longer one is an
error of its own, whatever it denotes.  Nor is a number written that has more digits.  Colour
channels and the integers of a document are read by `Numeral.read`.  Arguments given by a person are
read by `Numeral.readInt?`, which also takes blanks around the number, a sign, single underscores
between digits and the digits of every script.
-/
import SwatchIndex.Text.Blank

namespace SwatchIndex

/-- A numeral with more digits than may be read. -/
structure OverlongNumeral where
  digits : Nat
deriving DecidableEq, Repr

/-- The wording of the error. -/
def OverlongNumeral.message (e : OverlongNumeral) : String :=
  "Exceeds the limit (4300 digits) for integer string conversion: value has " ++
    toString e.digits ++ " digits; use sys.set_int_max_str_digits() to increase the limit"

namespace Numeral

/-- The longest numeral that is read. -/
def maxDigits : Nat := 4300

/-- The value of an ASCII digit. -/
def digitValue (c : Char) : Nat := c.toNat - '0'.toNat

/-- The number that a run of ASCII digits denotes. -/
def value (digits : Text) : Nat := digits.foldl (fun n c => 10 * n + digitValue c) 0

/-- Reads a run of ASCII digits. -/
def read (digits : Text) : Except OverlongNumeral Nat :=
  if maxDigits < digits.length then .error ⟨digits.length⟩ else .ok (value digits)

/-- Whether a number has no more digits than may be written. -/
def isWritable (n : Int) : Bool := decide ((toString n.natAbs).length ≤ maxDigits)

/-- The wording of the error at a number with more digits than may be written. -/
def unwritable : String :=
  "Exceeds the limit (4300 digits) for integer string conversion; " ++
    "use sys.set_int_max_str_digits() to increase the limit"

/-- The zeros of the decimal digit sets of all scripts; each is followed by its one to nine. -/
def zeros : List Nat :=
  [0x0030, 0x0660, 0x06f0, 0x07c0, 0x0966, 0x09e6, 0x0a66, 0x0ae6, 0x0b66, 0x0be6, 0x0c66,
   0x0ce6, 0x0d66, 0x0de6, 0x0e50, 0x0ed0, 0x0f20, 0x1040, 0x1090, 0x17e0, 0x1810, 0x1946,
   0x19d0, 0x1a80, 0x1a90, 0x1b50, 0x1bb0, 0x1c40, 0x1c50, 0xa620, 0xa8d0, 0xa900, 0xa9d0,
   0xa9f0, 0xaa50, 0xabf0, 0xff10, 0x104a0, 0x10d30, 0x11066, 0x110f0, 0x11136, 0x111d0,
   0x112f0, 0x11450, 0x114d0, 0x11650, 0x116c0, 0x11730, 0x118e0, 0x11950, 0x11c50, 0x11d50,
   0x11da0, 0x16a60, 0x16ac0, 0x16b50, 0x1d7ce, 0x1d7d8, 0x1d7e2, 0x1d7ec, 0x1d7f6, 0x1e140,
   0x1e2f0, 0x1e950, 0x1fbf0]

/-- The value of a decimal digit of any script. -/
def digit? (c : Char) : Option Nat :=
  (zeros.find? fun first => first ≤ c.toNat && c.toNat < first + 10).map (c.toNat - ·)

/-- The digits of a numeral in which single underscores may stand between digits. -/
def grouped? : Text → Option (List Nat)
  | [] => none
  | [c] => (digit? c).map ([·])
  | c :: '_' :: rest => do
    let d ← digit? c
    let ds ← grouped? rest
    pure (d :: ds)
  | c :: rest => do
    let d ← digit? c
    let ds ← grouped? rest
    pure (d :: ds)

/-- The blanks that may surround an argument: ASCII space, and the blanks beyond ASCII. -/
def surrounds (c : Char) : Bool := isSpace c || (128 ≤ c.toNat && isBlank c)

/-- Reads an integer argument. -/
def readInt? (t : Text) : Option Int := do
  let body := Text.dropEndWhile surrounds (t.dropWhile surrounds)
  let (negative, numeral) :=
    match body with
    | '-' :: rest => (true, rest)
    | '+' :: rest => (false, rest)
    | rest => (false, rest)
  let digits ← grouped? numeral
  guard (digits.length ≤ maxDigits)
  let n := digits.foldl (fun n d => 10 * n + d) 0
  pure (if negative then -Int.ofNat n else Int.ofNat n)

end Numeral

end SwatchIndex
