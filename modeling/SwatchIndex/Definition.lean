/-
Definitions of custom properties.
-/
import SwatchIndex.Color

namespace SwatchIndex

/-- One declaration of a custom property. -/
structure Definition where
  /-- The name, with its leading hyphens. -/
  name : Text
  /-- The trimmed value. -/
  value : Text
  /-- The colour as annotated or as read off the value; none when there is no swatch to show. -/
  color : Option Text := none
  /-- Where the declaration was found. -/
  source : Option Text := none
deriving DecidableEq, Repr

/-- The colour in normal form, when the definition has one and it is a code. -/
def Definition.swatch (d : Definition) : Option Text := d.color.bind Color.fromCode

end SwatchIndex
