/-
Templates: texts with places for values.

`%s` stands for a value as it reads, `%r` for a value with texts in quotes, `%d` for the whole part
of a number, and `%%` for a percent sign.  There have to be as many values as places.
-/
import SwatchIndex.Decimal.Shortest
import SwatchIndex.Document.Value

namespace SwatchIndex

/-- Why a template cannot be filled. -/
inductive TemplateError where
  | tooFewValues
  | tooManyValues
  | notNumber (found : String)
  | notANumber
  | infinite
  | openEnd
  | unknownPlace (mark : Char) (offset : Nat)
deriving DecidableEq, Repr

/-- The wording of the error. -/
def TemplateError.message : TemplateError → String
  | .tooFewValues => "not enough arguments for format string"
  | .tooManyValues => "not all arguments converted during string formatting"
  | .notNumber found => "%d format: a real number is required, not " ++ found
  | .notANumber => "cannot convert float NaN to integer"
  | .infinite => "cannot convert float infinity to integer"
  | .openEnd => "incomplete format"
  | .unknownPlace mark offset =>
    let shown := if ' ' ≤ mark && mark ≤ '~' then mark else '?'
    "unsupported format character '" ++ String.singleton shown ++ "' (0x" ++
      Text.str (Text.hexPadded 1 mark.toNat) ++ ") at index " ++ toString offset

namespace Template

mutual

/-- A value with texts in quotes. -/
def exact : Value → Text
  | .null => "None".toList
  | .bool true => "True".toList
  | .bool false => "False".toList
  | .int n => (toString n).toList
  | .float x => (Decimal.ofDouble x).toList
  | .string s => Spelling.quoted s
  | .list items => '[' :: Text.join ", ".toList (exactItems items) ++ [']']
  | .object fields => '\x7b' :: Text.join ", ".toList (exactFields fields) ++ ['\x7d']

/-- The items of a list. -/
def exactItems : List Value → List Text
  | [] => []
  | item :: rest => exact item :: exactItems rest

/-- The fields of an object. -/
def exactFields : Document → List Text
  | [] => []
  | (name, value) :: rest => (name.quoted ++ ": ".toList ++ exact value) :: exactFields rest

end

/-- A value as it reads. -/
def plain : Value → Text
  | .string s => s.shown
  | v => exact v

/-- The whole part of a number. -/
def whole : Value → Except TemplateError Text
  | .bool b => .ok [if b then '1' else '0']
  | .int n => .ok (toString n).toList
  | .float x =>
    match Double.ofFloat x with
    | .nan => .error .notANumber
    | .infinite _ => .error .infinite
    | d => .ok (toString (d.whole?.getD 0)).toList
  | v => .error (.notNumber v.typeName)

/-- What stands in a place, by the place's mark; `offset` is where the mark is. -/
def placed (mark : Char) (offset : Nat) (v : Value) : Except TemplateError Text :=
  if mark == 's' then .ok (plain v)
  else if mark == 'r' then .ok (exact v)
  else if mark == 'd' then whole v
  else .error (.unknownPlace mark offset)

/-- Fills the places of a template, whose first character has the given offset, from left to
right. -/
def fillFrom (offset : Nat) : Text → List Value → Except TemplateError Text
  | ['%'], _ => .error .openEnd
  | '%' :: '%' :: rest, args => (fillFrom (offset + 2) rest args).map ('%' :: ·)
  | '%' :: _ :: _, [] => .error .tooFewValues
  | '%' :: mark :: rest, arg :: args => do
    let first ← placed mark (offset + 1) arg
    let others ← fillFrom (offset + 2) rest args
    pure (first ++ others)
  | c :: rest, args => (fillFrom (offset + 1) rest args).map (c :: ·)
  | [], [] => .ok []
  | [], _ :: _ => .error .tooManyValues

/-- Fills the places of a template from left to right. -/
def fill (template : Text) (args : List Value) : Except TemplateError Text :=
  fillFrom 0 template args

end Template

end SwatchIndex
