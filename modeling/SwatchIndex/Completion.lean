/-
Where in a text a name can be completed.

The text is what stands in front of a cursor; a single newline at its end does not count.  The name
being typed runs to the cursor.  It is completed inside a reference, after `var(` and space, or as a
bare name that does not stand inside another identifier.
-/
import SwatchIndex.Registry
import SwatchIndex.Text.Search

namespace SwatchIndex

/-- The two kinds of place where a name can be completed. -/
inductive ContextKind where
  | valueReference
  | bareName
deriving DecidableEq, Repr

/-- The name of the kind. -/
def ContextKind.label : ContextKind → String
  | .valueReference => "value_reference"
  | .bareName => "bare_name"

/-- A name being typed, and where it stands. -/
structure Context where
  kind : ContextKind
  typed : Text
  start : Nat
  stop : Nat
deriving DecidableEq, Repr

namespace Completion

/-- Whether nothing but a final newline is left of a text. -/
def atEnd (t : Text) : Bool := t == [] || t == ['\n']

/-- The name that starts here with two hyphens and runs to the end. -/
def typed? (t : Text) : Option Text :=
  let name := t.takeWhile isNameChar
  if "--".toList.isPrefixOf name && atEnd (t.dropWhile isNameChar) then some name else none

/-- The name typed in the reference that starts here, and its distance from here. -/
def reference? (_before : Bool) (t : Text) : Option (Nat × Text) := do
  let inner ← "var(".toList.isPrefixOf? t
  let name ← typed? (inner.dropWhile isSpace)
  pure (4 + (inner.takeWhile isSpace).length, name)

/-- The bare name that starts here. -/
def bare? (before : Bool) (t : Text) : Option Text := if before then none else typed? t

end Completion

open Completion in
/-- The name being typed at the end of a text: in a reference if there is one, else as a bare
name. -/
def classify (text : Text) : Option Context :=
  match search reference? false 0 text with
  | some (i, distance, name) =>
    some ⟨.valueReference, name, i + distance, i + distance + name.length⟩
  | none =>
    (search bare? false 0 text).map fun (i, name) => ⟨.bareName, name, i, i + name.length⟩

/-- The names that can be typed at the end of a text, with the place where they go. -/
def complete (text : Text) (r : Registry) : Option (Context × List Definition) :=
  (classify text).map fun context => (context, r.definitions)

end SwatchIndex
