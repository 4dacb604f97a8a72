/-
Documents in writing: indented by two spaces a level, with only those code points escaped that a
string cannot hold.
-/
import SwatchIndex.Decimal.Shortest
import SwatchIndex.Document.Value

namespace SwatchIndex.Value

/-- One character of a string. -/
def writeChar (c : Char) : Text :=
  if c == '"' then "\\\"".toList
  else if c == '\\' then "\\\\".toList
  else if c == '\n' then "\\n".toList
  else if c == '\r' then "\\r".toList
  else if c == '\t' then "\\t".toList
  else if c == '\x08' then "\\b".toList
  else if c == '\x0c' then "\\f".toList
  else if c.toNat < 0x20 then "\\u".toList ++ Text.hexPadded 4 c.toNat
  else [c]

/-- One code point of a string. -/
def writePoint : CodePoint → Text
  | .char c => writeChar c
  | .half h => Spelling.halfEscape h

/-- A string. -/
def writeString (s : Spelling) : Text := '"' :: s.flatMap writePoint ++ ['"']

/-- A newline and the indentation of a level. -/
def lineBreak (level : Nat) : Text := '\n' :: List.replicate (2 * level) ' '

/-- Items between brackets, each on a line of its own; nothing between them when there is none. -/
def writeBlock (level : Nat) (opening closing : Char) (items : List Text) : Text :=
  if items.isEmpty then [opening, closing]
  else
    opening :: lineBreak (level + 1) ++ Text.join (',' :: lineBreak (level + 1)) items ++
      lineBreak level ++ [closing]

mutual

/-- A value at a level of indentation. -/
def write (level : Nat) : Value → Text
  | .null => "null".toList
  | .bool true => "true".toList
  | .bool false => "false".toList
  | .int n => (toString n).toList
  | .float x => (Decimal.ofDouble x).toList
  | .string s => writeString s
  | .list items => writeBlock level '[' ']' (writeItems (level + 1) items)
  | .object fields => writeBlock level '\x7b' '\x7d' (writeFields (level + 1) fields)

/-- The items of a list. -/
def writeItems (level : Nat) : List Value → List Text
  | [] => []
  | item :: rest => write level item :: writeItems level rest

/-- The fields of an object. -/
def writeFields (level : Nat) : Document → List Text
  | [] => []
  | (name, value) :: rest =>
    (writeString name ++ ": ".toList ++ write level value) :: writeFields level rest

end

/-- A document in writing. -/
def pretty (v : Value) : Text := write 0 v

end SwatchIndex.Value
