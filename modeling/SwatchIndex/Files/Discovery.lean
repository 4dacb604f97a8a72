/-
Discovery of the stylesheets below a directory.

A file is a candidate if one of the included globs leads to it and none of the excluded patterns
describes its path from the root on, with or without a slash in front.  The candidates are listed by
their parts, and the list may be cut at a bound.  A place that cannot be looked up ends it all.
-/
import SwatchIndex.Files.Glob
import SwatchIndex.Text.Clip

namespace SwatchIndex

/-- Why a discovery stops. -/
inductive DiscoveryError where
  | glob (e : GlobError)
  | file (e : FileError)
deriving DecidableEq, Repr

/-- The wording of the error. -/
def DiscoveryError.message : DiscoveryError → String
  | .glob e => e.message
  | .file e => e.message

namespace Discovery

/-- Whether one of the patterns describes a path, with or without a slash in front. -/
def isExcluded (relative : Text) (excluded : List Spelling) : Bool :=
  excluded.any fun pattern =>
    NamePattern.describes pattern relative || NamePattern.describes pattern ('/' :: relative)

/-- The path that leads from the root to a place below it. -/
def relative (root p : Place) : Text := Text.join "/".toList (p.parts.drop root.parts.length)

/-- The order of places by their parts. -/
def inOrder (p q : Place) : Bool := !decide (q.parts < p.parts)

/-- The place that a glob has yielded, if it is a file that is not excluded. -/
def examined (tree : Tree) (root : Place) (excluded : List Spelling)
    (yielded : Except FileError Place) : Except FileError (Option Place) := do
  let p ← yielded
  let found ← tree.probe p
  pure (if found.any Node.isFile && !isExcluded (relative root p) excluded then some p else none)

/-- The files that a glob leads to and that are not excluded.  Each place is looked up as soon as
the glob has yielded it, so the first error ends both. -/
def matching (tree : Tree) (root : Place) (excluded : List Spelling) (glob : Spelling) :
    Except DiscoveryError (List Place) := do
  let segments ← (Glob.parse glob).mapError .glob
  let found ← ((Glob.select tree root segments).mapM (examined tree root excluded)).mapError .file
  pure (found.filterMap id)

/-- The candidates below a directory, each listed once, by their parts. -/
def candidates (tree : Tree) (root : Place) (included excluded : List Spelling) :
    Except DiscoveryError (List Place) := do
  let found ← included.mapM (matching tree root excluded)
  pure (found.flatten.eraseDups.mergeSort inOrder)

/-- The candidates that a bound leaves. -/
def capped (bound : Int) (files : List Place) : List Place :=
  if bound < Int.ofNat files.length then clip bound files else files

end Discovery

/-- The stylesheets below a root; none when the root is no directory. -/
def discover (tree : Tree) (root : Place) (included excluded : List Spelling) (bound : Int) :
    Except DiscoveryError (List Place) := do
  if ← (tree.probeDirectory root).mapError .file then
    let files ← Discovery.candidates tree root included excluded
    pure (Discovery.capped bound files)
  else pure []

end SwatchIndex
