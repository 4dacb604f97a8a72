/-
Values of documents.
-/
import SwatchIndex.Table
import SwatchIndex.Text.Spelling

namespace SwatchIndex

/-- A value of a document.  The fields of an object stand in the order in which their names first
occur, and each has its last value. -/
inductive Value where
  | null
  | bool (b : Bool)
  | int (n : Int)
  | float (x : Float)
  | string (s : Spelling)
  | list (items : List Value)
  | object (fields : List (Spelling × Value))
deriving Inhabited

/-- The fields of an object. -/
abbrev Document := List (Spelling × Value)

namespace Value

/-- The name of the value's type, as messages give it. -/
def typeName : Value → String
  | .null => "NoneType"
  | .bool _ => "bool"
  | .int _ => "int"
  | .float _ => "float"
  | .string _ => "str"
  | .list _ => "list"
  | .object _ => "dict"

/-- A text as a value. -/
def text (t : Text) : Value := .string (.ofText t)

/-- The object of fields that may repeat a name. -/
def ofFields (fields : Document) : Value :=
  .object (fields.foldl (fun done (name, value) => Table.putEntry name value done) [])

end Value

end SwatchIndex
