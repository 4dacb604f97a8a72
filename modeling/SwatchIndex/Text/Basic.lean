/-
Text as the rest of the library sees it.

A text is a list of characters: scanning is recursion, a cut is `take` or `drop`, and every offset
counts characters.  The two character classes here are the ones that stylesheets are scanned with,
and both are ASCII by definition of the notation.
-/

namespace SwatchIndex

/-- A text is a list of characters. -/
abbrev Text := List Char

namespace Text

/-- The text as a string, for output. -/
def str (t : Text) : String := String.ofList t

/-- The texts one after the other, with `separator` between neighbours. -/
def join (separator : Text) (parts : List Text) : Text := separator.intercalate parts

end Text

/-- The characters of a custom property's name: ASCII letters, digits, `_` and `-`. -/
def isNameChar (c : Char) : Bool := c.isAlphanum || c == '_' || c == '-'

/-- ASCII white space: space, tab, newline, carriage return, form feed and vertical tab. -/
def isSpace (c : Char) : Bool :=
  c == ' ' || c == '\t' || c == '\n' || c == '\r' || c == '\x0c' || c == '\x0b'

/-- Whether a run of name characters is a custom property's name: two hyphens and something more. -/
def isName : Text → Bool
  | '-' :: '-' :: _ :: _ => true
  | _ => false

end SwatchIndex
