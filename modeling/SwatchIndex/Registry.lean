/-
Registries: the definitions of many stylesheets under their names.

A registry is a snapshot.  Of the definitions of one name the last one counts, whole, and stands
where the name was first seen.  Every definition that gave way is kept in a collision, so nothing
that was read is lost.  Each registry carries a version that no other registry has; two registries
with the same entries are equal as far as their content goes, and the version tells them apart.
-/
import SwatchIndex.Definition
import SwatchIndex.Table

namespace SwatchIndex

/-- A definition that gave way to a later one of the same name. -/
structure Collision where
  name : Text
  replaced : Definition
  replacement : Definition
deriving DecidableEq, Repr

/-- A snapshot of definitions under their names. -/
structure Registry where
  table : Table Definition
  collisions : List Collision
  version : Nat
deriving DecidableEq, Repr

namespace Registry

/-! ### Queries -/

/-- The definition under a name. -/
def get? (r : Registry) (name : Text) : Option Definition := r.table.get? name

/-- Whether there is a definition under a name. -/
def contains (r : Registry) (name : Text) : Bool := r.table.contains name

/-- The names in order. -/
def names (r : Registry) : List Text := r.table.keys

/-- The definitions in the order of their names. -/
def definitions (r : Registry) : List Definition := r.table.values

/-- The number of names. -/
def size (r : Registry) : Nat := r.table.size

/-- The definitions whose names start with `head`. -/
def startingWith (r : Registry) (head : Text) : List Definition :=
  (r.table.entries.filter fun (name, _) => head.isPrefixOf name).map Prod.snd

/-- Whether two registries have the same entries in the same order. -/
def sameEntries (r s : Registry) : Bool := r.table.entries == s.table.entries

/-- A one-line description. -/
def describe (r : Registry) : String :=
  "Registry(version=" ++ toString r.version ++ ", size=" ++ toString r.size ++ ", collisions=" ++
    toString r.collisions.length ++ ")"

/-! ### Merging -/

/-- What has been merged so far. -/
structure Merge where
  table : Table Definition
  collisions : List Collision
deriving DecidableEq, Repr

namespace Merge

/-- Nothing merged. -/
def empty : Merge := ⟨.empty, []⟩

/-- Adds one definition: it takes the place of an earlier one of its name. -/
def add (m : Merge) (d : Definition) : Merge where
  table := m.table.put d.name d
  collisions :=
    match m.table.get? d.name with
    | none => m.collisions
    | some previous => m.collisions ++ [⟨d.name, previous, d⟩]

/-- Adds the definitions of one unit. -/
def addUnit (m : Merge) (unit : List Definition) : Merge := unit.foldl add m

end Merge

/-- The registry of some entries and collisions, as they stand. -/
def ofEntries (entries : List (Text × Definition)) (collisions : List Collision) (version : Nat) :
    Registry :=
  ⟨.ofEntries entries, collisions, version⟩

/-- The registry of the definitions of some units, merged in order. -/
def build (units : List (List Definition)) (version : Nat) : Registry :=
  let merged := units.foldl Merge.addUnit .empty
  ⟨merged.table, merged.collisions, version⟩

end Registry

end SwatchIndex
