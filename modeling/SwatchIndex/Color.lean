/-
Colours: triplets of channels and hexadecimal codes.

A colour is written in two ways.  A triplet such as `167, 79, 249` gives the three channels in base
ten; a code such as `#abc` or `#a74ff9` gives them in base sixteen, the short form standing for the
long one with each digit doubled.  `fromTriplet` and `fromCode` bring both to one normal form: a
hash and six digits with capital letters.
-/
import SwatchIndex.Numeral

namespace SwatchIndex

/-- The three channels of a colour. -/
structure Rgb where
  red : Fin 256
  green : Fin 256
  blue : Fin 256
deriving DecidableEq, Repr

namespace Rgb

/-- A digit of base sixteen, with capital letters. -/
def hexDigit (n : Nat) : Char :=
  if n < 10 then Char.ofNat ('0'.toNat + n) else Char.ofNat ('A'.toNat + (n - 10))

/-- A channel as two digits of base sixteen. -/
def channelCode (n : Fin 256) : Text := [hexDigit (n.val / 16), hexDigit (n.val % 16)]

/-- The normal form of a colour. -/
def code (c : Rgb) : Text :=
  '#' :: (channelCode c.red ++ channelCode c.green ++ channelCode c.blue)

/-- The colour with the given channels, if each is at most 255. -/
def ofNats? (red green blue : Nat) : Option Rgb :=
  if h : red < 256 ∧ green < 256 ∧ blue < 256 then
    some ⟨⟨red, h.1⟩, ⟨green, h.2.1⟩, ⟨blue, h.2.2⟩⟩
  else none

end Rgb

namespace Color

/-! ### Triplets -/

/-- A non-empty run of digits and what follows it. -/
def numeral? (t : Text) : Option (Text × Text) :=
  let digits := t.takeWhile Char.isDigit
  if digits.isEmpty then none else some (digits, t.dropWhile Char.isDigit)

/-- What follows a comma that may have space on both sides. -/
def comma? (t : Text) : Option Text :=
  match t.dropWhile isSpace with
  | ',' :: rest => some (rest.dropWhile isSpace)
  | _ => none

/-- The three numerals of a text that has the shape of a triplet. -/
def numerals? (t : Text) : Option (Text × Text × Text) := do
  let (red, t) ← numeral? t
  let t ← comma? t
  let (green, t) ← numeral? t
  let t ← comma? t
  let (blue, t) ← numeral? t
  if t.isEmpty then some (red, green, blue) else none

/-- Reads a triplet.  The channels are read from left to right before any is compared with 255, so
an overlong numeral is an error even beside a channel that is too large. -/
def readTriplet (value : Text) : Except OverlongNumeral (Option Rgb) :=
  match numerals? (Text.strip value) with
  | none => .ok none
  | some (red, green, blue) => do
    let r ← Numeral.read red
    let g ← Numeral.read green
    let b ← Numeral.read blue
    pure (Rgb.ofNats? r g b)

/-- The normal form of a colour that is written as a triplet. -/
def fromTriplet (value : Text) : Except OverlongNumeral (Option Text) :=
  (readTriplet value).map (Option.map Rgb.code)

/-! ### Codes -/

/-- A digit of base sixteen in either case. -/
def isHexDigit (c : Char) : Bool :=
  c.isDigit || ('a' ≤ c && c ≤ 'f') || ('A' ≤ c && c ≤ 'F')

/-- The digits of a code: a hash and three or six digits of base sixteen. -/
def codeDigits? : Text → Option Text
  | '#' :: digits =>
    if (digits.length == 3 || digits.length == 6) && digits.all isHexDigit then some digits
    else none
  | _ => none

/-- The long form of a code's digits. -/
def lengthen : Text → Text
  | [r, g, b] => [r, r, g, g, b, b]
  | digits => digits

/-- The normal form of a colour that is written as a code. -/
def fromCode (value : Text) : Option Text :=
  (codeDigits? (Text.strip value)).map fun digits => '#' :: (lengthen digits).map Char.toUpper

end Color

end SwatchIndex
