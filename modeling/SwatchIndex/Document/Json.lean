/-
Reading JSON.

The reader walks over the text and counts the characters it has passed, so that an error can say
where it is.  Beside the standard it takes `NaN` and the infinities.  Lists and objects may be
nested up to a limit that is beyond all sensible use.
-/
import SwatchIndex.Color
import SwatchIndex.Decimal.Shortest
import SwatchIndex.Document.Value

namespace SwatchIndex

/-- What is wrong with a text that is no JSON. -/
inductive JsonProblem where
  | value
  | fieldName
  | colon
  | comma
  | extraData
  | unterminatedString
  | controlCharacter
  | escape
  | unicodeEscape
  | byteOrderMark
deriving DecidableEq, Repr

/-- The wording of the problem. -/
def JsonProblem.message : JsonProblem → String
  | .value => "Expecting value"
  | .fieldName => "Expecting property name enclosed in double quotes"
  | .colon => "Expecting ':' delimiter"
  | .comma => "Expecting ',' delimiter"
  | .extraData => "Extra data"
  | .unterminatedString => "Unterminated string starting at"
  | .controlCharacter => "Invalid control character at"
  | .escape => "Invalid \\escape"
  | .unicodeEscape => "Invalid \\uXXXX escape"
  | .byteOrderMark => "Unexpected UTF-8 BOM (decode using utf-8-sig)"

/-- The two kinds of nesting. -/
inductive Nesting where
  | list
  | object
deriving DecidableEq, Repr

/-- Values that are nested too deeply; the relaxed grammar does not say in what. -/
structure TooDeep where
  innermost : Option Nesting
deriving DecidableEq, Repr

/-- The wording of the error. -/
def TooDeep.message (e : TooDeep) : String :=
  let place :=
    match e.innermost with
    | some .list => " while decoding a JSON array from a unicode string"
    | some .object => " while decoding a JSON object from a unicode string"
    | none => ""
  "maximum recursion depth exceeded" ++ place

/-- Why a text cannot be read as a document. -/
inductive ReadError where
  /-- It is not well formed at an offset. -/
  | malformed (problem : JsonProblem) (line column offset : Nat)
  /-- It holds an integer that is too long. -/
  | numeral (e : OverlongNumeral)
  /-- It is nested too deeply. -/
  | tooDeep (e : TooDeep)
  /-- It is not well formed by the relaxed grammar, in the words of its reader. -/
  | relaxed (message : String)
deriving DecidableEq, Repr

/-- The wording of the error. -/
def ReadError.message : ReadError → String
  | .malformed problem line column offset =>
    problem.message ++ ": line " ++ toString line ++ " column " ++ toString column ++ " (char " ++
      toString offset ++ ")"
  | .numeral e => e.message
  | .tooDeep e => e.message
  | .relaxed message => message

namespace Json

/-- What is left of the text, and the offset of its first character. -/
structure Input where
  rest : Text
  pos : Nat

/-- Why reading stops. -/
inductive Stop where
  | problem (problem : JsonProblem) (offset : Nat)
  | numeral (e : OverlongNumeral)
  | tooDeep (e : TooDeep)

/-- Readers go from an input to a value and the input behind it. -/
abbrev Reader (α : Type) := Input → Except Stop (α × Input)

/-- The input behind its first `n` characters. -/
def Input.skip (i : Input) (n : Nat) : Input := ⟨i.rest.drop n, i.pos + n⟩

/-- White space of JSON. -/
def isGap (c : Char) : Bool := c == ' ' || c == '\t' || c == '\n' || c == '\r'

/-- The input behind white space. -/
def Input.skipGap (i : Input) : Input := i.skip (i.rest.takeWhile isGap).length

/-- Stops at an offset. -/
def fail (problem : JsonProblem) (offset : Nat) : Except Stop α := .error (.problem problem offset)

/-! ### Strings -/

/-- The number that four digits of base sixteen give. -/
def hex4? (t : Text) : Option Nat :=
  let digits := t.take 4
  if digits.length == 4 && digits.all Color.isHexDigit then
    some (digits.foldl
      (fun n c =>
        16 * n + (if c.isDigit then c.toNat - '0'.toNat else c.toUpper.toNat - 'A'.toNat + 10)) 0)
  else none

/-- The character that a one-letter escape stands for. -/
def escaped? (c : Char) : Option Char :=
  if c == '"' || c == '\\' || c == '/' then some c
  else if c == 'b' then some '\x08'
  else if c == 'f' then some '\x0c'
  else if c == 'n' then some '\n'
  else if c == 'r' then some '\r'
  else if c == 't' then some '\t'
  else none

/-- The code point of an escape by number, and the input behind it.  The input starts behind the
`u`, and a character has to follow the four digits.  Two escapes for the halves of a pair are one
character. -/
def readCode (i : Input) : Except Stop (CodePoint × Input) :=
  if (i.rest.drop 4).isEmpty then fail .unicodeEscape (i.pos - 1)
  else
    match hex4? i.rest with
    | none => fail .unicodeEscape (i.pos - 1)
    | some code =>
      let behind := i.skip 4
      if 0xd800 ≤ code && code ≤ 0xdbff && !(behind.rest.drop 6).isEmpty &&
          "\\u".toList.isPrefixOf behind.rest then
        let second := behind.skip 2
        match hex4? second.rest with
        | none => fail .unicodeEscape (second.pos - 1)
        | some low =>
          if 0xdc00 ≤ low && low ≤ 0xdfff then
            .ok (.ofNat (0x10000 + (code - 0xd800) * 1024 + (low - 0xdc00)), second.skip 4)
          else .ok (.ofNat code, behind)
      else .ok (.ofNat code, behind)

/-- The rest of a string that started at the offset `start`; `done` is what has been read, in
reverse. -/
def readString (start : Nat) : Nat → Spelling → Reader Spelling
  | 0, _, _ => fail .unterminatedString start
  | fuel + 1, done, i =>
    match i.rest with
    | [] => fail .unterminatedString start
    | '"' :: _ => .ok (done.reverse, i.skip 1)
    | '\\' :: rest =>
      match rest with
      | [] => fail .unterminatedString start
      | 'u' :: _ => do
        let (c, i) ← readCode (i.skip 2)
        readString start fuel (c :: done) i
      | c :: _ =>
        match escaped? c with
        | none => fail .escape i.pos
        | some c => readString start fuel (.char c :: done) (i.skip 2)
    | c :: _ =>
      if c.toNat < 0x20 then fail .controlCharacter i.pos
      else readString start fuel (.char c :: done) (i.skip 1)

/-- A string whose opening quote comes next; the fuel is at least the length of the input. -/
def string (fuel : Nat) (i : Input) : Except Stop (Spelling × Input) :=
  readString i.pos fuel [] (i.skip 1)

/-! ### Numbers -/

/-- The digits of a whole number: a zero alone, or digits that do not start with a zero. -/
def whole? (t : Text) : Option Text :=
  match t with
  | '0' :: _ => some ['0']
  | c :: _ => if c.isDigit then some (t.takeWhile Char.isDigit) else none
  | [] => none

/-- The digits behind a decimal point, if there are any. -/
def fraction (t : Text) : Text :=
  match t with
  | '.' :: rest => rest.takeWhile Char.isDigit
  | _ => []

/-- An exponent: its sign, its digits and its width. -/
def exponent? (t : Text) : Option (Bool × Text × Nat) :=
  match t with
  | e :: rest =>
    if e == 'e' || e == 'E' then
      let (negative, signs, body) :=
        match rest with
        | '-' :: body => (true, 1, body)
        | '+' :: body => (false, 1, body)
        | body => (false, 0, body)
      let digits := body.takeWhile Char.isDigit
      if digits.isEmpty then none else some (negative, digits, 1 + signs + digits.length)
    else none
  | [] => none

/-- The number that digits before and behind the point and an exponent give. -/
def double (negative : Bool) (whole fraction : Text) (exponent : Option (Bool × Text × Nat)) :
    Value :=
  let shift : Int :=
    match exponent with
    | none => 0
    | some (true, digits, _) => -Int.ofNat (Numeral.value digits)
    | some (false, digits, _) => Int.ofNat (Numeral.value digits)
  .float (Decimal.toDouble negative (Numeral.value (whole ++ fraction))
    (shift - Int.ofNat fraction.length))

/-- A number. -/
def number (i : Input) : Except Stop (Value × Input) :=
  let negative := i.rest.head? == some '-'
  let unsigned := if negative then i.skip 1 else i
  match whole? unsigned.rest with
  | none => fail .value i.pos
  | some whole =>
    let behind := unsigned.skip whole.length
    let fraction := fraction behind.rest
    let behind := if fraction.isEmpty then behind else behind.skip (fraction.length + 1)
    let exponent := exponent? behind.rest
    if fraction.isEmpty && exponent.isNone then
      match Numeral.read whole with
      | .error e => .error (.numeral e)
      | .ok n => .ok (.int (if negative then -Int.ofNat n else Int.ofNat n), behind)
    else
      let width := (exponent.map fun (_, _, width) => width).getD 0
      .ok (double negative whole fraction exponent, behind.skip width)

/-! ### Values -/

/-- The words that stand for values. -/
def words : List (Text × Value) :=
  [("null".toList, .null), ("true".toList, .bool true), ("false".toList, .bool false),
   ("NaN".toList, .float (0.0 / 0.0)), ("Infinity".toList, .float (1.0 / 0.0)),
   ("-Infinity".toList, .float (-1.0 / 0.0))]

/-- The deepest nesting that is read.  It stands for the stack of the program that reads: of a
thousand calls at a time, its default, this many are left for lists and objects when a document is
asked for.  The number was found by trying, and no other definition goes by it. -/
def maxDepth : Nat := 980

mutual

/-- A value.  `depth` is the number of lists and objects around it. -/
def value (depth : Nat) : Nat → Reader Value
  | 0, i => fail .value i.pos
  | fuel + 1, i =>
    match i.rest with
    | '"' :: _ => do
      let (s, i) ← string fuel i
      pure (.string s, i)
    | '[' :: _ =>
      if maxDepth ≤ depth then .error (.tooDeep ⟨some .list⟩)
      else
        let inner := (i.skip 1).skipGap
        match inner.rest with
        | ']' :: _ => .ok (.list [], inner.skip 1)
        | _ => do
          let (items, i) ← items (depth + 1) fuel inner
          pure (.list items, i)
    | '\x7b' :: _ =>
      if maxDepth ≤ depth then .error (.tooDeep ⟨some .object⟩)
      else
        let inner := (i.skip 1).skipGap
        match inner.rest with
        | '\x7d' :: _ => .ok (.object [], inner.skip 1)
        | _ => do
          let (fields, i) ← fields (depth + 1) fuel inner
          pure (.ofFields fields, i)
    | rest =>
      match words.find? fun (word, _) => word.isPrefixOf rest with
      | some (word, v) => .ok (v, i.skip word.length)
      | none => number i

/-- The items of a list, up to and including its closing bracket. -/
def items (depth : Nat) : Nat → Reader (List Value)
  | 0, i => fail .value i.pos
  | fuel + 1, i => do
    let (first, i) ← value depth fuel i
    let i := i.skipGap
    match i.rest with
    | ']' :: _ => pure ([first], i.skip 1)
    | ',' :: _ => do
      let (others, i) ← items depth fuel (i.skip 1).skipGap
      pure (first :: others, i)
    | _ => fail .comma i.pos

/-- The fields of an object, up to and including its closing brace. -/
def fields (depth : Nat) : Nat → Reader Document
  | 0, i => fail .fieldName i.pos
  | fuel + 1, i =>
    match i.rest with
    | '"' :: _ => do
      let (name, i) ← string fuel i
      let i := i.skipGap
      match i.rest with
      | ':' :: _ => do
        let (v, i) ← value depth fuel (i.skip 1).skipGap
        let i := i.skipGap
        match i.rest with
        | '\x7d' :: _ => pure ([(name, v)], i.skip 1)
        | ',' :: _ => do
          let (others, i) ← fields depth fuel (i.skip 1).skipGap
          pure ((name, v) :: others, i)
        | _ => fail .comma i.pos
      | _ => fail .colon i.pos
    | _ => fail .fieldName i.pos

end

/-- A text that is one value and white space. -/
def whole (text : Text) : Except Stop Value := do
  if text.head? == some (Char.ofNat 0xfeff) then fail .byteOrderMark 0
  let (v, i) ← value 0 (2 * text.length + 2) (Input.skipGap ⟨text, 0⟩)
  let i := i.skipGap
  if i.rest.isEmpty then pure v else fail .extraData i.pos

/-- The error at an offset of the text.  Lines and columns are counted from one. -/
def located (text : Text) (problem : JsonProblem) (offset : Nat) : ReadError :=
  let before := text.take offset
  let line := before.count '\n' + 1
  let column := (before.reverse.takeWhile (· != '\n')).length + 1
  .malformed problem line column offset

/-- Reads a text as JSON. -/
def read (text : Text) : Except ReadError Value :=
  match whole text with
  | .ok v => .ok v
  | .error (.problem problem offset) => .error (located text problem offset)
  | .error (.numeral e) => .error (.numeral e)
  | .error (.tooDeep e) => .error (.tooDeep e)

end Json

end SwatchIndex
