/-
What the strings of a document spell.

A document may spell a string by the numbers of its code points.  Nearly all of these are
characters.  The others are the halves of which pairs stand for a character in UTF-16: a half that
is spelled out stays a half, and two of them in a row are two code points.  So the strings of a
document are spellings and not texts.  A text is a spelling without halves.

For a reader, a pair of halves is the character that it stands for, and a half alone is given by
its number.
-/
import SwatchIndex.Text.Quoted

namespace SwatchIndex

/-- A code point: a character, or a half, by its distance from the first half. -/
inductive CodePoint where
  | char (c : Char)
  | half (h : Fin 2048)
deriving DecidableEq, Repr

namespace CodePoint

/-- The number of the first half. -/
def firstHalf : Nat := 0xd800

/-- The number of a code point. -/
def toNat : CodePoint → Nat
  | .char c => c.toNat
  | .half h => firstHalf + h.val

/-- The code point of a number. -/
def ofNat (n : Nat) : CodePoint :=
  if h : firstHalf ≤ n ∧ n - firstHalf < 2048 then .half ⟨n - firstHalf, h.2⟩
  else .char (Char.ofNat n)

/-- The character that a code point is, unless it is a half. -/
def char? : CodePoint → Option Char
  | .char c => some c
  | .half _ => none

/-- Code points are in the order of their numbers. -/
instance : LT CodePoint := ⟨fun a b => a.toNat < b.toNat⟩

instance (a b : CodePoint) : Decidable (a < b) := inferInstanceAs (Decidable (a.toNat < b.toNat))

end CodePoint

/-- A spelling is a list of code points. -/
abbrev Spelling := List CodePoint

namespace Spelling

/-- The spelling of a text. -/
def ofText (t : Text) : Spelling := t.map .char

/-- The spelling of a string. -/
def ofString (s : String) : Spelling := ofText s.toList

/-- The text that is spelled, if no half is in it. -/
def text? (s : Spelling) : Option Text := s.mapM CodePoint.char?

/-! ### For a reader -/

/-- The character that two halves stand for, if the first is of those that come first. -/
def pair? (first second : Fin 2048) : Option Char :=
  if first.val < 1024 ∧ 1024 ≤ second.val then
    some (Char.ofNat (0x10000 + first.val * 1024 + (second.val - 1024)))
  else none

/-- The escape that stands for a half. -/
def halfEscape (h : Fin 2048) : Text := Text.codeEscape (CodePoint.half h).toNat

/-- The spelling in characters: pairs of halves are joined, and other halves are escaped. -/
def shown : Spelling → Text
  | [] => []
  | .char c :: rest => c :: shown rest
  | [.half h] => halfEscape h
  | .half h :: .char c :: rest => halfEscape h ++ c :: shown rest
  | .half first :: .half second :: rest =>
    match pair? first second with
    | some c => c :: shown rest
    | none => halfEscape first ++ shown (.half second :: rest)

/-- The spelling as a string, for output. -/
def str (s : Spelling) : String := Text.str (shown s)

/-- One code point between quotes of the kind `quote`. -/
def quotedPoint (quote : Char) : CodePoint → Text
  | .char c => Text.quotedChar quote c
  | .half h => halfEscape h

/-- The spelling between quotes, each half escaped. -/
def quoted (s : Spelling) : Text :=
  let quote := Text.quoteFor (s.filterMap CodePoint.char?)
  quote :: s.flatMap (quotedPoint quote) ++ [quote]

/-! ### Where only characters may stand -/

/-- A run of halves where only characters may stand. -/
structure StrayHalves where
  /-- Where the run starts. -/
  start : Nat
  /-- The first half. -/
  first : Fin 2048
  /-- How many halves follow it. -/
  more : Nat
deriving DecidableEq, Repr

/-- The wording of the error. -/
def StrayHalves.message (e : StrayHalves) : String :=
  let place :=
    if e.more = 0 then
      "character '" ++ Text.str (halfEscape e.first) ++ "' in position " ++ toString e.start
    else "characters in position " ++ toString e.start ++ "-" ++ toString (e.start + e.more)
  "'utf-8' codec can't encode " ++ place ++ ": surrogates not allowed"

/-- Whether a code point is a half. -/
def isHalf (p : CodePoint) : Bool := p.char?.isNone

/-- The text that is spelled from the position `start` on, or the first run of halves. -/
def readFrom (start : Nat) : Spelling → Except StrayHalves Text
  | [] => .ok []
  | .char c :: rest => (readFrom (start + 1) rest).map (c :: ·)
  | .half h :: rest => .error ⟨start, h, (rest.takeWhile isHalf).length⟩

/-- The text that is spelled, or the first run of halves. -/
def read (s : Spelling) : Except StrayHalves Text := readFrom 0 s

end Spelling

end SwatchIndex
