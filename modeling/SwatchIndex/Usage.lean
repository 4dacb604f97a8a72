/-
Usages of coloured custom properties.

An occurrence is `var(--name)` without any space.  A usage is an occurrence whose name has a
definition with a swatch.  The scan goes from left to right over disjoint occurrences, and a bound
counts the occurrences that are looked at, whether they turn out to be usages or not.
-/
import SwatchIndex.Registry

namespace SwatchIndex

/-- A place where `var(--name)` stands in a text. -/
structure Occurrence where
  start : Nat
  stop : Nat
  name : Text
deriving DecidableEq, Repr

/-- An occurrence that has a swatch to show. -/
structure Usage where
  start : Nat
  stop : Nat
  name : Text
  color : Text
deriving DecidableEq, Repr

/-- A bound that is negative or does not fit a machine word. -/
inductive BadBound where
  | badBound
deriving DecidableEq, Repr

/-- The wording of the error. -/
def BadBound.message (_ : BadBound) : String :=
  "Stop argument for islice() must be None or an integer: 0 <= x <= sys.maxsize."

namespace Occurrence

/-- The name in the occurrence that starts here. -/
def name? (t : Text) : Option Text := do
  let inner ← "var(".toList.isPrefixOf? t
  let name := inner.takeWhile isNameChar
  if isName name then
    match inner.dropWhile isNameChar with
    | ')' :: _ => some name
    | _ => none
  else none

/-- The occurrences of a text whose first character has the offset `pos`, without those that start
in its first `skip` characters. -/
def scan (pos skip : Nat) : Text → List Occurrence
  | [] => []
  | c :: rest =>
    match skip with
    | skip + 1 => scan (pos + 1) skip rest
    | 0 =>
      match name? (c :: rest) with
      | some name => ⟨pos, pos + name.length + 5, name⟩ :: scan (pos + 1) (name.length + 4) rest
      | none => scan (pos + 1) 0 rest

/-- The disjoint occurrences of a text, from left to right. -/
def all (text : Text) : List Occurrence := scan 0 0 text

/-- Bounds are below two to the power of 63. -/
def boundLimit : Int := 9223372036854775808

/-- The occurrences that a bound leaves to be looked at. -/
def bounded (bound : Option Int) (occurrences : List Occurrence) :
    Except BadBound (List Occurrence) :=
  match bound with
  | none => .ok occurrences
  | some k =>
    if 0 ≤ k ∧ k < boundLimit then .ok (occurrences.take k.toNat) else .error .badBound

/-- The usage at an occurrence.  It goes by the name that the definition itself has. -/
def usage? (r : Registry) (o : Occurrence) : Option Usage := do
  let d ← r.get? o.name
  let color ← d.swatch
  pure ⟨o.start, o.stop, d.name, color⟩

end Occurrence

/-- The usages in a text, from left to right. -/
def findUsages (text : Text) (r : Registry) (bound : Option Int) : Except BadBound (List Usage) :=
  (Occurrence.bounded bound (Occurrence.all text)).map (List.filterMap (Occurrence.usage? r))

end SwatchIndex
