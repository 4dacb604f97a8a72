/-
The holder of the registry that is current.
-/
import SwatchIndex.Registry

namespace SwatchIndex

/-- Holds one registry at a time. -/
structure Holder where
  current : Registry
deriving DecidableEq, Repr

namespace Holder

/-- Makes a registry the current one, and gives back the one it takes the place of. -/
def publish (h : Holder) (r : Registry) : Registry × Holder := (h.current, ⟨r⟩)

/-- Whether a registry is another one than the current. -/
def isStale (h : Holder) (r : Registry) : Bool := r.version != h.current.version

end Holder

end SwatchIndex
