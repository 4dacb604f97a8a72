/-
The outcome of a scan, as a stream and as a whole.

A scan yields definitions one at a time and then either ends or fails.  It fails only at a value
that has the shape of a triplet with an overlong numeral, and then the definitions before it have
been yielded.  `Scan.result` is the scan taken as a whole: all definitions, or the error.  A scan
may be bounded in two ways: by the part of the text that is looked at, and by the number of
definitions after which it ends without looking further.
-/
import SwatchIndex.Declaration

namespace SwatchIndex

/-- Definitions in the order of the text, then the end or an error. -/
inductive Scan where
  | finished
  | failed (cause : OverlongNumeral)
  | found (definition : Definition) (rest : Scan)
deriving DecidableEq, Repr

namespace Scan

/-- The definitions that are yielded before the end or the error. -/
def definitions : Scan → List Definition
  | .finished => []
  | .failed _ => []
  | .found d rest => d :: rest.definitions

/-- The scan as a whole: all definitions, or the error. -/
def result : Scan → Except OverlongNumeral (List Definition)
  | .finished => .ok []
  | .failed cause => .error cause
  | .found d rest => rest.result.map (d :: ·)

/-- What one request to a scan is answered with. -/
inductive Answer where
  | definition (d : Definition)
  | failure (cause : OverlongNumeral)
  | ended
deriving DecidableEq, Repr

/-- The answers to `n` requests.  After an error, as after the end, there is nothing more. -/
def answers : Nat → Scan → List Answer
  | 0, _ => []
  | n + 1, .finished => .ended :: answers n .finished
  | n + 1, .failed cause => .failure cause :: answers n .finished
  | n + 1, .found d rest => .definition d :: answers n rest

end Scan

namespace Declaration

/-- The colour of a declaration: the code of the comment as it stands, or else the value's
triplet. -/
def color (value : Text) : Option Text → Except OverlongNumeral (Option Text)
  | some code => .ok (some code)
  | none => Color.fromTriplet value

/-- The scan from a cursor on, for at most `budget` definitions if one is given. -/
def scanFrom (text : Text) (source : Option Text) (budget : Option Nat) (c : Cursor) : Scan :=
  if budget = some 0 then .finished
  else
    match _h : c.step text with
    | .finished => .finished
    | .passed next => scanFrom text source budget next
    | .declared name value code next =>
      match color value code with
      | .error cause => .failed cause
      | .ok shade =>
        .found ⟨name, value, shade, source⟩ (scanFrom text source (budget.map (· - 1)) next)
termination_by text.length - c.pos
decreasing_by
  all_goals
    have forward : c.pos < next.pos ∧ c.pos < text.length :=
      Cursor.pos_lt_of_step (by rw [_h]; rfl)
    omega

end Declaration

/-- The bounds of a scan: on the length of the text and on the number of definitions. -/
structure ScanLimits where
  length : Option Int := none
  count : Option Int := none
deriving DecidableEq, Repr

namespace ScanLimits

/-- Whether a text is longer than the bound on the length. -/
def exceededBy (limits : ScanLimits) (text : Text) : Bool :=
  match limits.length with
  | none => false
  | some n => n < Int.ofNat text.length

/-- The part of the text that is scanned. -/
def cut (limits : ScanLimits) (text : Text) : Text :=
  if limits.exceededBy text then clipTo limits.length text else text

end ScanLimits

/-- Scans a stylesheet. -/
def scan (text : Text) (source : Option Text) (limits : ScanLimits) : Scan :=
  Declaration.scanFrom (limits.cut text) source (limits.count.map Int.toNat) .start

/-- The definitions of a stylesheet, or the error that its scan ends with. -/
def parse (text : Text) (source : Option Text) (limits : ScanLimits) :
    Except OverlongNumeral (List Definition) :=
  (scan text source limits).result

end SwatchIndex
