/-
Decorations: the swatches that an editor draws beside usages.
-/
import SwatchIndex.Usage

namespace SwatchIndex

/-- The look of a swatch. -/
structure SwatchStyle where
  background : Text
  content : Text := " ".toList
  margin : Text := "0 0 0 4px".toList
  width : Text := "12px".toList
  height : Text := "12px".toList
  border : Text := "1px solid #ccc".toList
deriving DecidableEq, Repr

/-- A swatch and the span it belongs to. -/
structure Decoration where
  start : Nat
  stop : Nat
  color : Text
deriving DecidableEq, Repr

namespace Decoration

/-- The look of the swatch. -/
def style (d : Decoration) : SwatchStyle := { background := d.color }

/-- The decoration of a usage. -/
def ofUsage (u : Usage) : Decoration := ⟨u.start, u.stop, u.color⟩

end Decoration

/-- The decorations of a text. -/
def decorations (text : Text) (r : Registry) (bound : Option Int) :
    Except BadBound (List Decoration) :=
  (findUsages text r bound).map (List.map Decoration.ofUsage)

end SwatchIndex
