/-
Globs: patterns for paths below a directory.

A glob is a list of segments.  A double star leads to a directory and to all directories below it, a
segment with a wildcard to the names that it describes, and any other segment to the one name that
it spells, a double dot included.  Only directories are entered.  A slash at the end asks for
directories.  A half of a pair is in no name.

Globs are followed as far as they are asked for, so what they lead to comes one place after the
other.  What may not be looked up or listed is passed over, but any other problem, such as a path
that is too long, is an error.
-/
import SwatchIndex.Files.NamePattern
import SwatchIndex.Files.Tree

namespace SwatchIndex

/-- One segment of a glob. -/
inductive Segment where
  | anyDepth
  | wild (pattern : Spelling)
  | literal (name : Spelling)
  | finalSlash
deriving DecidableEq, Repr

/-- Why a text is no glob. -/
inductive GlobError where
  | empty
  | absolute
  | noSegment
  | onlySlash
  | strayStars
deriving DecidableEq, Repr

/-- The wording of the error. -/
def GlobError.message : GlobError → String
  | .empty => "Unacceptable pattern: ''"
  | .absolute => "Non-relative patterns are unsupported"
  | .noSegment => "tuple index out of range"
  | .onlySlash => "'_TerminatingSelector' object has no attribute 'select_from'"
  | .strayStars => "Invalid pattern: '**' can only be an entire path component"

namespace Glob

/-- Whether two stars stand side by side in a segment. -/
def hasDoubleStar : Spelling → Bool
  | .char '*' :: .char '*' :: _ => true
  | _ :: rest => hasDoubleStar rest
  | [] => false

/-- Whether a segment has a wildcard. -/
def isWild (part : Spelling) : Bool :=
  part.any fun p => p == .char '*' || p == .char '?' || p == .char '['

/-- Reads one segment. -/
def segment (part : Spelling) : Except GlobError Segment :=
  if part = .ofString "**" then .ok .anyDepth
  else if hasDoubleStar part then .error .strayStars
  else if isWild part then .ok (.wild part)
  else .ok (.literal part)

/-- The slash between segments. -/
def slash : CodePoint := .char '/'

/-- The segments of a glob as they are spelled, without those that say nothing. -/
def parts (glob : Spelling) : List Spelling :=
  (glob.splitOn slash).filter fun part => part != [] && part != .ofString "."

/-- Reads a glob. -/
def parse (glob : Spelling) : Except GlobError (List Segment) := do
  if glob.isEmpty then throw .empty
  if glob.head? == some slash then throw .absolute
  let closed := glob.getLast? == some slash
  if (parts glob).isEmpty then throw (if closed then .onlySlash else .noSegment)
  let segments ← (parts glob).mapM segment
  pure (if closed then segments ++ [.finalSlash] else segments)

/-- Whether a place that a segment spells may be entered: a directory, or anything when no segment
is left. -/
def mayEnter (tree : Tree) (p : Place) (rest : List Segment) : Except FileError Bool :=
  if rest.isEmpty then (tree.probe p).map Option.isSome else tree.probeDirectory p

/-- Goes on with what was asked for.  What is denied is passed over; any other error is yielded. -/
def goOn (asked : Except FileError α) (next : α → List (Except FileError β)) :
    List (Except FileError β) :=
  match asked with
  | .ok a => next a
  | .error e => if e.problem = .denied then [] else [.error e]

/-- Whether the directories on the way from a place, all but the last, can be listed. -/
def isOpen (tree : Tree) (here : Place) (parts : List Text) : Bool :=
  (List.range parts.length).all fun n => (tree.openDirectory (here.descend (parts.take n))).isOk

/-- The parts that lead from a directory to itself, none, and to each directory below it.  One that
cannot be listed hides what is below it. -/
def descents (tree : Tree) (here : Place) : List (Except FileError (List Text)) :=
  (([] :: tree.below here).filter (isOpen tree here)).flatMap fun parts =>
    .ok parts :: goOn (tree.openDirectory (here.descend parts)) fun _ => []

/-- What a glob yields from a directory, one after the other: the places that it leads to, or an
error, which ends it. -/
def select (tree : Tree) (here : Place) : List Segment → List (Except FileError Place)
  | [] => [.ok here]
  | .finalSlash :: rest => select tree here rest
  | .anyDepth :: rest =>
    (descents tree here).flatMap fun
      | .ok parts => select tree (here.descend parts) rest
      | .error e => [.error e]
  | .wild pattern :: rest =>
    goOn (tree.entries here) fun entries =>
      let described := entries.filter fun (name, isDirectory) =>
        NamePattern.describes pattern name && (rest.isEmpty || isDirectory)
      described.flatMap fun (name, _) => select tree (here.child name) rest
  | .literal spelled :: rest =>
    match spelled.text? with
    | none => []
    | some name =>
      goOn (mayEnter tree (here.child name) rest) fun enters =>
        if enters then select tree (here.child name) rest else []

end Glob

end SwatchIndex
