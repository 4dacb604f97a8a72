/-
Candidates in the order in which they fit a typed name.

First come the candidates whose names start with what was typed, then those whose names are similar
enough, the most similar first.  Candidates of equal rank keep their order, and each is listed once.
-/
import SwatchIndex.Definition
import SwatchIndex.Ranking.Similarity
import SwatchIndex.Text.Clip

namespace SwatchIndex

/-- The candidates that fit a typed name. -/
structure Ranking where
  /-- Those whose names start with it. -/
  leading : List Definition
  /-- The others that are similar enough, the most similar first. -/
  similar : List Definition
deriving DecidableEq, Repr

namespace Ranking

/-- A name without its two leading hyphens. -/
def bare : Text → Text
  | '-' :: '-' :: rest => rest
  | name => name

variable {σ : Type}

/-- The candidates that do not start with the typed name, with their scores, if these reach the
cutoff. -/
def scored (measure : Similarity.Measure σ) (cutoff : σ) (typed : Text) (pool : List Definition) :
    List (σ × Definition) :=
  (pool.filter fun d => !typed.isPrefixOf d.name).filterMap fun d =>
    let score := measure.score (bare typed) (bare d.name)
    if measure.atMost cutoff score then some (score, d) else none

/-- Ranks the candidates for a typed name. -/
def of (measure : Similarity.Measure σ) (cutoff : σ) (typed : Text) (pool : List Definition) :
    Ranking where
  leading := pool.filter fun d => typed.isPrefixOf d.name
  similar := ((scored measure cutoff typed pool).mergeSort fun a b => measure.atMost b.1 a.1).map
    Prod.snd

/-- The cutoff when none is given. -/
def defaultCutoff : Float := 70.0

end Ranking

/-- The candidates for a typed name, cut at a bound.  When nothing is typed behind the hyphens, all
candidates fit and keep their order. -/
def rank {σ : Type} (measure : Similarity.Measure σ) (cutoff : σ) (typed : Text)
    (pool : List Definition) (bound : Option Int) : List Definition :=
  if (Ranking.bare typed).isEmpty then clipTo bound pool
  else
    let ranking := Ranking.of measure cutoff typed pool
    clipTo bound (ranking.leading ++ ranking.similar)

end SwatchIndex
