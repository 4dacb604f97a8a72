/-
Completion items: what an editor lists for a name being typed.

A bare name is offered on its own.  Inside a reference an item also shows the value, and for a
definition with a swatch a preview of the colour.
-/
import SwatchIndex.Completion
import SwatchIndex.Ranking

namespace SwatchIndex

/-- The kinds of item. -/
inductive ItemKind where
  | variable
  | color
deriving DecidableEq, Repr

/-- The name of the kind. -/
def ItemKind.label : ItemKind → String
  | .variable => "variable"
  | .color => "color"

/-- A completion item. -/
structure Item where
  label : Text
  insertText : Text
  kind : ItemKind := .variable
  detail : Option Text := none
  documentation : Option Text := none
deriving DecidableEq, Repr

namespace Item

/-- The image of a swatch. -/
def swatchUrl (color : Text) : Text :=
  "https://via.placeholder.com/10/".toList ++ color.dropWhile (· == '#') ++
    "/000000?text=+".toList

/-- The preview of a colour: its swatch, its code and the value it came from. -/
def preview (color value : Text) : Text :=
  "![color](".toList ++ swatchUrl color ++ ") `".toList ++ color ++ "`\n`".toList ++ value ++
    "`".toList

/-- The item of a definition. -/
def ofDefinition (kind : ContextKind) (d : Definition) : Item :=
  match kind, d.swatch with
  | .bareName, _ => { label := d.name, insertText := d.name }
  | .valueReference, none => { label := d.name, insertText := d.name, detail := some d.value }
  | .valueReference, some color =>
    { label := d.name, insertText := d.name, kind := .color, detail := some d.value,
      documentation := some (preview color d.value) }

end Item

/-- Whether and how far the candidates are narrowed. -/
structure Narrowing where
  rank : Bool := false
  bound : Option Int := none
deriving DecidableEq, Repr

/-- The candidates that are offered for a typed name. -/
def Narrowing.apply (n : Narrowing) (typed : Text) (pool : List Definition) : List Definition :=
  if n.rank then SwatchIndex.rank .double Ranking.defaultCutoff typed pool n.bound
  else clipTo n.bound pool

/-- The items for the name being typed at the end of a text, with the place where they go. -/
def offer (text : Text) (r : Registry) (n : Narrowing) : Option (Context × List Item) :=
  (complete text r).map fun (context, pool) =>
    (context, (n.apply context.typed pool).map (Item.ofDefinition context.kind))

end SwatchIndex
