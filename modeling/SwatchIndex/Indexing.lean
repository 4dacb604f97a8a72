/-
Indexing: from the texts of stylesheets to a registry.

All units are parsed before a registry is made, so an error leaves none behind.  Registries take
their versions from a counter: one for the registry as merged, and one more for the registry with
its aliases resolved.
-/
import SwatchIndex.Journal.Event
import SwatchIndex.Registry.Alias

namespace SwatchIndex

/-- A stylesheet by its path; the text is missing if it could not be read. -/
structure SourceUnit where
  path : Text
  text : Option Text
deriving DecidableEq, Repr

namespace Indexing

/-- The definitions of a unit.  A unit without a text has none. -/
def parseUnit (s : Settings) (u : SourceUnit) : Except OverlongNumeral (List Definition) :=
  match u.text with
  | none => .ok []
  | some text => parse text (some u.path) s.limits

/-- The definitions of each unit, or the first error. -/
def parseUnits (s : Settings) (units : List SourceUnit) :
    Except OverlongNumeral (List (List Definition)) :=
  units.mapM (parseUnit s)

/-- The index of some units, and the counter of versions afterwards. -/
def index (s : Settings) (units : List SourceUnit) (next : Nat) :
    Except OverlongNumeral Registry × Nat :=
  match parseUnits s units with
  | .error cause => (.error cause, next)
  | .ok parsed =>
    let merged := Registry.build parsed next
    if s.resolveDepth ≤ 0 then (.ok merged, next + 1)
    else (.ok (merged.resolve s.resolveDepth (next + 1)), next + 2)

/-! ### What is reported -/

/-- That a text is cut, if it is. -/
def clipEvents (text : Text) (source : Option Text) (limits : ScanLimits) : List Event :=
  match limits.length with
  | some bound =>
    if limits.exceededBy text then [.clipped source text.length bound] else []
  | none => []

/-- The events of a scan. -/
def scanEvents (text : Text) (source : Option Text) (limits : ScanLimits) : List Event :=
  clipEvents text source limits ++ (scan text source limits).definitions.map .declared

/-- The events of the first `n` requests to a scan.  Without a request the scan does not start. -/
def requestEvents (n : Nat) (text : Text) (source : Option Text) (limits : ScanLimits) :
    List Event :=
  if n = 0 then []
  else clipEvents text source limits ++
    ((scan text source limits).definitions.take n).map .declared

/-- The events of parsing units, up to the first error. -/
def unitEvents (s : Settings) : List SourceUnit → List Event
  | [] => []
  | u :: rest =>
    match u.text with
    | none => unitEvents s rest
    | some text =>
      scanEvents text (some u.path) s.limits ++
        match parseUnit s u with
        | .error _ => []
        | .ok definitions => .parsed u.path definitions.length :: unitEvents s rest

/-- The events of building a registry. -/
def buildEvents (r : Registry) : List Event := r.collisions.map .redefined ++ [.merged r]

/-- That a chain comes back to a name, if it does. -/
def cycleEvents (r : Registry) (depth : Int) (d : Definition) : List Event :=
  match Alias.ending r depth d with
  | .cycle name => [.cycle name d.name]
  | _ => []

/-- The events of resolving a registry. -/
def resolveEvents (r : Registry) (depth : Int) : List Event :=
  if depth ≤ 0 then []
  else r.definitions.flatMap (cycleEvents r depth) ++
    [.resolved (r.definitions.countP (Alias.inherits r depth)) depth]

/-- The events of indexing. -/
def indexEvents (s : Settings) (units : List SourceUnit) (next : Nat) : List Event :=
  unitEvents s units ++
    match parseUnits s units with
    | .error _ => []
    | .ok parsed =>
      let merged := Registry.build parsed next
      let final := if s.resolveDepth ≤ 0 then merged else merged.resolve s.resolveDepth (next + 1)
      buildEvents merged ++ resolveEvents merged s.resolveDepth ++ [.indexed final units.length]

end Indexing

end SwatchIndex
