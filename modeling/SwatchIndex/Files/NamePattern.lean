/-
Patterns for names.

In a pattern `*` stands for any run of characters, `?` for any character and `[…]` for a character
of a set; everything else stands for itself.  A pattern describes whole names, and upper and lower
case differ.  Names are texts, but patterns come from documents and are spellings.

A set may hold ranges and is turned round by a leading `!`.  Hyphens divide its inside into chunks,
and the characters on both sides of such a hyphen are the ends of a range.  A range whose ends are
in the wrong order is empty: it vanishes, and the chunks beside it become one.
-/
import SwatchIndex.Text.Spelling

namespace SwatchIndex

/-- The code points that a set holds, as ranges, or those that it does not hold. -/
structure CharSet where
  negated : Bool
  ranges : List (CodePoint × CodePoint)
deriving DecidableEq, Repr

/-- Whether a set describes a character. -/
def CharSet.holds (s : CharSet) (c : Char) : Bool :=
  s.ranges.any (fun (first, last) => first.toNat ≤ c.toNat && c.toNat ≤ last.toNat) != s.negated

namespace CharSet

/-! ### Reading the inside of a set -/

/-- Cuts the inside of a set at its hyphens.  The first `guarded` code points, and two code points
behind each cut, are not looked at.  A hyphen that ends the inside belongs to the last chunk. -/
def chunks (guarded : Nat) (chunk : Spelling) : Spelling → List Spelling
  | [] => [chunk]
  | [.char '-'] => [chunk ++ [.char '-']]
  | p :: rest =>
    if guarded = 0 && p == .char '-' then chunk :: chunks 2 [] rest
    else chunks (guarded - 1) (chunk ++ [p]) rest

/-- Joins each chunk to the one behind it if the range between them is empty, from the last chunk
to the first. -/
def dropEmptyRanges : List Spelling → List Spelling
  | [] => []
  | chunk :: rest =>
    match dropEmptyRanges rest with
    | [] => [chunk]
    | next :: others =>
      match chunk.getLast?, next.head? with
      | some first, some last =>
        if last < first then (chunk.dropLast ++ next.tail) :: others else chunk :: next :: others
      | _, _ => chunk :: next :: others

/-- The ranges of the chunks: one between each two neighbours, and one for each other code point. -/
def rangesOf : List Spelling → List (CodePoint × CodePoint)
  | [] => []
  | [chunk] => chunk.map fun p => (p, p)
  | chunk :: next :: others =>
    match chunk.getLast?, next with
    | some first, last :: tail =>
      chunk.dropLast.map (fun p => (p, p)) ++ (first, last) :: rangesOf (tail :: others)
    | _, _ => (.char '-', .char '-') :: rangesOf (next :: others)
termination_by chunks => chunks.length

/-- The set with the given inside. -/
def ofInside (inside : Spelling) : CharSet :=
  match dropEmptyRanges (chunks (if inside.head? == some (.char '!') then 2 else 1) [] inside) with
  | (.char '!' :: chunk) :: others => ⟨true, rangesOf (chunk :: others)⟩
  | chunks => ⟨false, rangesOf chunks⟩

end CharSet

/-- One element of a pattern. -/
inductive NameToken where
  | anyRun
  | anyChar
  | oneOf (set : CharSet)
  | exactly (p : CodePoint)
deriving DecidableEq, Repr

namespace NamePattern

/-- The inside of a set and what follows its closing bracket.  A closing bracket at the start of the
inside, or behind its `!`, does not close it. -/
def inside? (s : Spelling) : Option (Spelling × Spelling) :=
  let mark := s.takeWhile (· == .char '!') |>.take 1
  let s := s.drop mark.length
  let first := s.takeWhile (· == .char ']') |>.take 1
  let s := s.drop first.length
  match s.dropWhile (· != .char ']') with
  | [] => none
  | _ :: rest => some (mark ++ first ++ s.takeWhile (· != .char ']'), rest)

/-- Reads a pattern; the fuel is the pattern's length. -/
def tokens : Nat → Spelling → List NameToken
  | 0, _ => []
  | _, [] => []
  | fuel + 1, .char '*' :: rest => .anyRun :: tokens fuel rest
  | fuel + 1, .char '?' :: rest => .anyChar :: tokens fuel rest
  | fuel + 1, .char '[' :: rest =>
    match inside? rest with
    | some (inside, rest) => .oneOf (.ofInside inside) :: tokens fuel rest
    | none => .exactly (.char '[') :: tokens fuel rest
  | fuel + 1, p :: rest => .exactly p :: tokens fuel rest

/-- Reads a pattern. -/
def parse (pattern : Spelling) : List NameToken := tokens pattern.length pattern

/-! ### Matching

The pattern is matched from its last element to its first.  For each place of the name, from the
first to the one behind the last, the row says whether the elements treated so far describe the
rest of the name from that place on.
-/

/-- Whether a token describes one character. -/
def NameToken.accepts (c : Char) : NameToken → Bool
  | .anyRun => false
  | .anyChar => true
  | .oneOf set => set.holds c
  | .exactly p => .char c == p

/-- The row of the empty pattern. -/
def lastRow : Text → List Bool
  | [] => [true]
  | _ :: rest => false :: lastRow rest

/-- The row of a token that describes one character, in front of a pattern with the given row. -/
def charRow (token : NameToken) : Text → List Bool → List Bool
  | c :: rest, _ :: row => (NameToken.accepts c token && row.headD false) :: charRow token rest row
  | _, _ => [false]

/-- The row of a token that describes any run, in front of a pattern with the given row. -/
def runRow : List Bool → List Bool
  | [] => []
  | b :: row =>
    let later := runRow row
    (b || later.headD false) :: later

/-- The row of a pattern. -/
def row (name : Text) : List NameToken → List Bool
  | [] => lastRow name
  | .anyRun :: rest => runRow (row name rest)
  | token :: rest => charRow token name (row name rest)

/-- Whether a pattern describes a name. -/
def describes (pattern : Spelling) (name : Text) : Bool :=
  (row name (parse pattern)).headD false

end NamePattern

end SwatchIndex
