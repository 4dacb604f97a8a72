/-
The settings of an index.
-/
import SwatchIndex.Declaration.Scan
import SwatchIndex.Text.Spelling

namespace SwatchIndex

/-- What is indexed and how far. -/
structure Settings where
  /-- Globs for the files that are indexed. -/
  included : List Spelling := [.ofString "**/*.css"]
  /-- Patterns for the paths that are left out. -/
  excluded : List Spelling := [.ofString "**/node_modules/**"]
  /-- The bound on the number of files. -/
  maxFiles : Int := 100
  /-- The bound on the length of a file's text. -/
  maxTextLength : Int := 2000000
  /-- The bound on the number of definitions in a file, and of occurrences that are looked at. -/
  maxMatches : Int := 10000
  /-- The number of hops for which aliases are followed. -/
  resolveDepth : Int := 0
  /-- The name of the files' encoding. -/
  encoding : Spelling := .ofString "utf-8"
deriving DecidableEq, Repr

namespace Settings

/-- The bounds of a scan under these settings. -/
def limits (s : Settings) : ScanLimits := ⟨some s.maxTextLength, some s.maxMatches⟩

/-- Quoted globs between parentheses, with a comma behind a single one. -/
def describeList (globs : List Spelling) : String :=
  match globs with
  | [g] => "(" ++ Text.str g.quoted ++ ",)"
  | globs => "(" ++ ", ".intercalate (globs.map fun g => Text.str g.quoted) ++ ")"

/-- A one-line description. -/
def describe (s : Settings) : String :=
  "IndexSettings(include=" ++ describeList s.included ++ ", exclude=" ++ describeList s.excluded ++
    ", max_files=" ++ toString s.maxFiles ++ ", max_text_length=" ++ toString s.maxTextLength ++
    ", max_matches=" ++ toString s.maxMatches ++ ", resolve_depth=" ++ toString s.resolveDepth ++
    ", encoding=" ++ Text.str s.encoding.quoted ++ ")"

/-- Whether the settings can be described: a number may be too long for that. -/
def isDescribable (s : Settings) : Bool :=
  [s.maxFiles, s.maxTextLength, s.maxMatches, s.resolveDepth].all Numeral.isWritable

end Settings

/-- Values that take the place of settings. -/
structure Overrides where
  included : Option (List Spelling) := none
  excluded : Option (List Spelling) := none
  maxFiles : Option Int := none
  maxTextLength : Option Int := none
  maxMatches : Option Int := none
  resolveDepth : Option Int := none
  encoding : Option Spelling := none
deriving DecidableEq, Repr

/-- The settings with those values replaced that are given. -/
def Settings.override (s : Settings) (o : Overrides) : Settings where
  included := o.included.getD s.included
  excluded := o.excluded.getD s.excluded
  maxFiles := o.maxFiles.getD s.maxFiles
  maxTextLength := o.maxTextLength.getD s.maxTextLength
  maxMatches := o.maxMatches.getD s.maxMatches
  resolveDepth := o.resolveDepth.getD s.resolveDepth
  encoding := o.encoding.getD s.encoding

end SwatchIndex
