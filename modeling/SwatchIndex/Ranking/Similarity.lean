/-
How alike two texts are.

The distance of two texts is the number of insertions and deletions between them, which their
longest common subsequence determines.  The similarity of a short text with a long one is the best
ratio over the windows of the long one: its parts of the short one's length, and its shorter heads
and tails.

The arithmetic is a parameter.  A `Scale` says how a distance becomes a score and how scores
compare.  What is needed to rank candidates is a `Measure`: a score for any two texts, and how
scores compare.  `Measure.double` is the one that candidates are ranked with.
-/
import SwatchIndex.Text.Basic

namespace SwatchIndex.Similarity

/-! ### Longest common subsequence -/

/-- The next row of the table of common subsequences.  `left` is the cell just written, `corner` the
cell above it. -/
def nextRow (c : Char) (left corner : Nat) : Text → List Nat → List Nat
  | y :: ys, above :: row =>
    let cell := if c == y then corner + 1 else max above left
    cell :: nextRow c cell above ys row
  | _, _ => []

/-- The length of the longest common subsequence of two texts. -/
def common (x y : Text) : Nat :=
  (x.foldl (fun row c => nextRow c 0 0 y row) (List.replicate y.length 0)).getLastD 0

/-- The number of insertions and deletions between two texts. -/
def distance (x y : Text) : Nat := x.length + y.length - 2 * common x y

/-! ### Windows -/

/-- The parts of `long` that a text of length `n` is compared with. -/
def windows (n : Nat) (long : Text) : List Text :=
  let m := long.length
  ((List.range n).drop 1).map long.take ++
    (List.range (m - n + 1)).map (fun i => (long.drop i).take n) ++
    ((List.range m).drop (m - n + 1)).map long.drop

/-! ### Scores -/

/-- How distances become scores, and how scores compare. -/
structure Scale (σ : Type) where
  /-- The score of equal texts. -/
  full : σ
  /-- The score of a text with the empty one. -/
  nothing : σ
  /-- The score of a distance between texts of the given total length. -/
  ratio : (distance total : Nat) → σ
  /-- Whether a score is at most another one. -/
  atMost : σ → σ → Bool

/-- Scores from 0 to 100 in double precision. -/
def Scale.double : Scale Float where
  full := 100.0
  nothing := 0.0
  ratio d total := (1.0 - d.toFloat / total.toFloat) * 100.0
  atMost a b := a ≤ b

variable {σ : Type}

/-- The larger score. -/
def Scale.max (scale : Scale σ) (a b : σ) : σ := if scale.atMost a b then b else a

/-- The best score of `short` over the windows of `long`. -/
def best (scale : Scale σ) (short long : Text) : σ :=
  (windows short.length long).foldl
    (fun score w => scale.max score (scale.ratio (distance short w) (short.length + w.length)))
    scale.nothing

/-- The score of two texts. -/
def score (scale : Scale σ) (a b : Text) : σ :=
  if a.isEmpty && b.isEmpty then scale.full
  else if a.isEmpty || b.isEmpty then scale.nothing
  else if a.length < b.length then best scale a b
  else if b.length < a.length then best scale b a
  else scale.max (best scale a b) (best scale b a)

/-- A score for any two texts, and how scores compare. -/
structure Measure (σ : Type) where
  score : Text → Text → σ
  /-- Whether a score is at most another one. -/
  atMost : σ → σ → Bool

/-- The scores of a scale. -/
def Scale.measure (scale : Scale σ) : Measure σ := ⟨score scale, scale.atMost⟩

/-- The scores in double precision. -/
def Measure.double : Measure Float := Scale.double.measure

end SwatchIndex.Similarity
