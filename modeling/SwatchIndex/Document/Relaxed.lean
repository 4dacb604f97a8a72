/-
Reading the relaxed grammar for documents that people write by hand.

Beside JSON it takes comments, trailing commas, single quotes, names without quotes, line
continuations in strings, numbers in base sixteen or with a bare decimal point or a plus sign, and
the blanks of every script.  Escapes by number are taken one by one, so that halves of pairs are
not joined.  Lists and objects may be nested up to a limit.  A text that is not well formed is
refused without a place.
-/
import SwatchIndex.Document.Json
import SwatchIndex.Text.Letter

namespace SwatchIndex.Relaxed

/-- Readers go from a text to a value and the text behind it. -/
abbrev Reader (α : Type) := Text → Option (α × Text)

/-! ### Gaps -/

/-- The characters that end a line. -/
def endsLine (c : Char) : Bool :=
  c == '\n' || c == '\r' || c.toNat == 0x2028 || c.toNat == 0x2029

/-- Spaces, tabs and form feeds of every script. -/
def isSpacing (c : Char) : Bool :=
  let n := c.toNat
  c == ' ' || c == '\t' || n == 0x0b || n == 0x0c || n == 0xa0 || n == 0x1680 ||
    (0x2000 ≤ n && n ≤ 0x200a) || n == 0x202f || n == 0x205f || n == 0x3000

/-- The characters that may stand between tokens; a byte order mark is one of them. -/
def isGap (c : Char) : Bool := isSpacing c || endsLine c || c.toNat == 0xfeff

/-- What follows the end of a block comment. -/
def behindComment? : Text → Option Text
  | '*' :: '/' :: rest => some rest
  | _ :: rest => behindComment? rest
  | [] => none

/-- The text behind blanks and comments. -/
def skipGap : Nat → Text → Text
  | 0, t => t
  | fuel + 1, t =>
    match t with
    | '/' :: '/' :: rest => skipGap fuel (rest.dropWhile fun c => !endsLine c)
    | '/' :: '*' :: rest =>
      match behindComment? rest with
      | some rest => skipGap fuel rest
      | none => t
    | c :: rest => if isGap c then skipGap fuel rest else t
    | [] => []

/-- The text behind blanks and comments. -/
def behindGap (t : Text) : Text := skipGap (t.length + 1) t

/-! ### Strings and names -/

/-- The code point of an escape by number; the text starts behind the `u`. -/
def code (t : Text) : Option (CodePoint × Text) :=
  (Json.hex4? t).map fun n => (.ofNat n, t.drop 4)

/-- The code points of an escape; the text starts behind the backslash.  A line continuation stands
for nothing. -/
def escape : Reader Spelling
  | '\r' :: '\n' :: rest => some ([], rest)
  | 'u' :: rest => (code rest).map fun (c, rest) => ([c], rest)
  | 'x' :: rest =>
    (Json.hex4? ('0' :: '0' :: rest)).map fun n => ([.ofNat n], rest.drop 2)
  | '0' :: rest =>
    if (rest.head?.map Char.isDigit).getD false then none else some ([.char '\x00'], rest)
  | c :: rest =>
    if endsLine c then some ([], rest)
    else if c.isDigit then none
    else if c == 'v' then some ([.char '\x0b'], rest)
    else some ([.char ((Json.escaped? c).getD c)], rest)
  | [] => none

/-- The rest of a string up to its closing quote; `done` is what has been read, in reverse.  A
string may hold line and paragraph separators, but neither newlines nor carriage returns. -/
def stringRest (quote : Char) : Nat → Spelling → Reader Spelling
  | 0, _, _ => none
  | fuel + 1, done, t =>
    match t with
    | [] => none
    | '\\' :: rest => do
      let (spelled, rest) ← escape rest
      stringRest quote fuel (spelled.reverse ++ done) rest
    | c :: rest =>
      if c == quote then some (done.reverse, rest)
      else if c == '\n' || c == '\r' then none
      else stringRest quote fuel (.char c :: done) rest

/-- A string in quotes of either kind. -/
def string : Reader Spelling
  | c :: rest =>
    if c == '"' || c == '\'' then stringRest c (rest.length + 1) [] rest else none
  | [] => none

/-- A character that may start a name. -/
def startsName (c : Char) : Bool := Text.isLetter c || c == '$' || c == '_'

/-- A character that may stand inside a name. -/
def continuesName (c : Char) : Bool :=
  startsName c || Text.isJoiner c || c.toNat == 0x200c || c.toNat == 0x200d

/-- The code points of a name for which `accept` holds of the first. -/
def nameFrom (accept : Char → Bool) : Nat → Text → Spelling × Text
  | 0, t => ([], t)
  | fuel + 1, t =>
    match t with
    | '\\' :: 'u' :: rest =>
      match code rest with
      | some (p, rest) =>
        let (name, rest) := nameFrom continuesName fuel rest
        (p :: name, rest)
      | none => ([], t)
    | c :: rest =>
      if accept c then
        let (name, rest) := nameFrom continuesName fuel rest
        (.char c :: name, rest)
      else ([], t)
    | [] => ([], [])

/-- A name without quotes. -/
def name : Reader Spelling := fun t =>
  match nameFrom startsName (t.length + 1) t with
  | ([], _) => none
  | found => some found

/-! ### Numbers -/

/-- Whether a minus stands in front of a number, and the number without its sign. -/
def unsigned : Text → Bool × Text
  | '+' :: rest => (false, rest)
  | '-' :: rest => (true, rest)
  | t => (false, t)

/-- A number in base sixteen. -/
def hex? (t : Text) : Option (Nat × Text) :=
  match t with
  | '0' :: x :: rest =>
    let digits := rest.takeWhile Color.isHexDigit
    if (x == 'x' || x == 'X') && !digits.isEmpty then
      some (digits.foldl
        (fun n c =>
          16 * n + (if c.isDigit then c.toNat - '0'.toNat else c.toUpper.toNat - 'A'.toNat + 10))
        0, rest.drop digits.length)
    else none
  | _ => none

/-- A number in base ten. -/
def decimal (negative : Bool) : Reader Value := fun t => do
  let whole := t.takeWhile Char.isDigit
  if whole.length > 1 && whole.head? == some '0' then failure
  let behind := t.drop whole.length
  let pointed := behind.head? == some '.'
  let fraction := Json.fraction behind
  if whole.isEmpty && fraction.isEmpty then failure
  let behind := if pointed then behind.drop (fraction.length + 1) else behind
  let exponent := Json.exponent? behind
  let behind := behind.drop ((exponent.map fun (_, _, width) => width).getD 0)
  if (behind.head?.map startsName).getD false then failure
  if pointed || exponent.isSome then some (Json.double negative whole fraction exponent, behind)
  else
    match Numeral.read whole with
    | .ok n => some (.int (if negative then -Int.ofNat n else Int.ofNat n), behind)
    | .error _ => none

/-- A number. -/
def number : Reader Value := fun t =>
  let (negative, t) := unsigned t
  match hex? t with
  | some (n, rest) => some (.int (if negative then -Int.ofNat n else Int.ofNat n), rest)
  | none =>
    match "Infinity".toList.isPrefixOf? t, "NaN".toList.isPrefixOf? t with
    | some rest, _ => some (.float (if negative then -1.0 / 0.0 else 1.0 / 0.0), rest)
    | none, some rest => some (.float (0.0 / 0.0), rest)
    | none, none => decimal negative t

/-! ### Values -/

/-- The words that stand for values. -/
def words : List (Text × Value) :=
  [("null".toList, .null), ("true".toList, .bool true), ("false".toList, .bool false)]

/-- The deepest nesting that is read.  It stands for the stack of the program that reads, where a
list or an object takes several of the thousand calls at a time that are its default.  The number
was found by trying, and no other definition goes by it. -/
def maxDepth : Nat := 150

/-- That a text is not well formed. -/
def illFormed : ReadError := .relaxed "not a valid document"

/-- Readers of values may also stop at values that are nested too deeply. -/
abbrev Nested (α : Type) := Text → Except ReadError (α × Text)

/-- A reader that refuses a text which is not well formed. -/
def strict (reader : Reader α) : Nested α := fun t =>
  match reader t with
  | some found => .ok found
  | none => .error illFormed

/-- A value that is neither a list nor an object. -/
def simple : Reader Value := fun t =>
  match words.find? fun (word, _) => word.isPrefixOf t with
  | some (word, v) => some (v, t.drop word.length)
  | none => ((string t).map fun (s, rest) => (.string s, rest)).or (number t)

/-- The name of a field. -/
def label : Reader Spelling := fun t => (string t).or (name t)

mutual

/-- A value.  `depth` is the number of lists and objects around it. -/
def value (depth : Nat) : Nat → Nested Value
  | 0, _ => .error illFormed
  | fuel + 1, t =>
    match t with
    | '[' :: rest => do
      if maxDepth ≤ depth then throw (.tooDeep ⟨none⟩)
      let (items, rest) ← items (depth + 1) fuel (behindGap rest)
      pure (.list items, rest)
    | '\x7b' :: rest => do
      if maxDepth ≤ depth then throw (.tooDeep ⟨none⟩)
      let (fields, rest) ← fields (depth + 1) fuel (behindGap rest)
      pure (.ofFields fields, rest)
    | t => strict simple t

/-- The items of a list, up to and including its closing bracket. -/
def items (depth : Nat) : Nat → Nested (List Value)
  | 0, _ => .error illFormed
  | fuel + 1, t =>
    match t with
    | ']' :: rest => .ok ([], rest)
    | t => do
      let (first, rest) ← value depth fuel t
      match behindGap rest with
      | ']' :: rest => .ok ([first], rest)
      | ',' :: rest => do
        let (others, rest) ← items depth fuel (behindGap rest)
        pure (first :: others, rest)
      | _ => .error illFormed

/-- The fields of an object, up to and including its closing brace. -/
def fields (depth : Nat) : Nat → Nested Document
  | 0, _ => .error illFormed
  | fuel + 1, t =>
    match t with
    | '\x7d' :: rest => .ok ([], rest)
    | t => do
      let (name, rest) ← strict label t
      match behindGap rest with
      | ':' :: rest => do
        let (v, rest) ← value depth fuel (behindGap rest)
        match behindGap rest with
        | '\x7d' :: rest => .ok ([(name, v)], rest)
        | ',' :: rest => do
          let (others, rest) ← fields depth fuel (behindGap rest)
          pure ((name, v) :: others, rest)
        | _ => .error illFormed
      | _ => .error illFormed

end

/-- Reads a text by the relaxed grammar. -/
def read (text : Text) : Except ReadError Value := do
  let (v, rest) ← value 0 (2 * text.length + 2) (behindGap text)
  if (behindGap rest).isEmpty then pure v else throw illFormed

end SwatchIndex.Relaxed
