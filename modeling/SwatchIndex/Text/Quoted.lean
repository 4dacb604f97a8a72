/-
A text in quotes, on one line and in visible characters only.

Single quotes are used, unless the text holds a single quote and no double quote.  The backslash,
the quote in use, the newline, the carriage return and the tab are escaped by a backslash, and any
other character without a printed form by its code point in two, four or eight hexadecimal digits.
-/
import SwatchIndex.Text.Basic
import SwatchIndex.Text.Printable

namespace SwatchIndex.Text

/-- The number in base sixteen with small letters, padded to `width` digits. -/
def hexPadded (width n : Nat) : Text :=
  let digits := Nat.toDigits 16 n
  List.replicate (width - digits.length) '0' ++ digits

/-- The escape that stands for a code point without a printed form. -/
def codeEscape (n : Nat) : Text :=
  if n < 0x100 then '\\' :: 'x' :: hexPadded 2 n
  else if n < 0x10000 then '\\' :: 'u' :: hexPadded 4 n
  else '\\' :: 'U' :: hexPadded 8 n

/-- One character between quotes of the kind `quote`. -/
def quotedChar (quote c : Char) : Text :=
  if c == quote || c == '\\' then ['\\', c]
  else if c == '\n' then ['\\', 'n']
  else if c == '\r' then ['\\', 'r']
  else if c == '\t' then ['\\', 't']
  else if isPrintable c then [c]
  else codeEscape c.toNat

/-- The quote that surrounds the text. -/
def quoteFor (t : Text) : Char :=
  if t.contains '\'' && !t.contains '"' then '"' else '\''

/-- The text between quotes. -/
def quoted (t : Text) : Text :=
  let quote := quoteFor t
  quote :: t.flatMap (quotedChar quote) ++ [quote]

end SwatchIndex.Text
