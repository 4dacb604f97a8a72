/-
Paths as they are written, and the places they lead to.

A path is a list of parts, written with slashes between them.  Empty parts and single dots say
nothing and are left out; a double dot is kept, since where it leads depends on the files.  A place
is a volume and the parts that lead down from its top.  The volume without a name holds everything;
above the top of any other volume there are places as well.
-/
import SwatchIndex.Text.Basic

namespace SwatchIndex

/-- The part that leads one level up. -/
def upward : Text := "..".toList

/-- Where a path starts. -/
inductive Start where
  | here
  | root
  /-- At the root, but written with two slashes, which are kept. -/
  | doubleRoot
deriving DecidableEq, Repr

/-- How the start of a path is written. -/
def Start.text : Start → Text
  | .here => []
  | .root => "/".toList
  | .doubleRoot => "//".toList

/-- A path as it is written. -/
structure Path where
  start : Start
  parts : List Text
deriving DecidableEq, Repr

namespace Path

/-- Where a written path starts.  Any number of slashes but two is as good as one. -/
def startOf (t : Text) : Start :=
  match (t.takeWhile (· == '/')).length with
  | 0 => .here
  | 2 => .doubleRoot
  | _ => .root

/-- Reads a path. -/
def parse (t : Text) : Path where
  start := startOf t
  parts := (t.splitOn '/').filter fun part => part != [] && part != ".".toList

/-- Whether the path starts at the root. -/
def isAbsolute (p : Path) : Bool := p.start != .here

/-- The path in writing. -/
def text (p : Path) : Text :=
  match p.start, p.parts with
  | .here, [] => ".".toList
  | start, parts => start.text ++ Text.join "/".toList parts

end Path

/-- A volume and the parts that lead down from its top. -/
structure Place where
  volume : Text
  parts : List Text
deriving DecidableEq, Repr

namespace Place

/-- The place in writing. -/
def text (p : Place) : Text :=
  match p.volume, p.parts with
  | [], [] => "/".toList
  | volume, parts => volume ++ parts.flatMap ('/' :: ·)

/-- The last part. -/
def name (p : Place) : Text := p.parts.getLastD []

/-- The place one part further down. -/
def child (p : Place) (part : Text) : Place := ⟨p.volume, p.parts ++ [part]⟩

/-- The place some parts further down. -/
def descend (p : Place) (parts : List Text) : Place := ⟨p.volume, p.parts ++ parts⟩

/-- The place one level up.  Nothing is above the volume without a name. -/
def up (p : Place) : Place :=
  match p.parts.getLast? with
  | none => if p.volume.isEmpty then p else p.child upward
  | some last => if last = upward then p.child upward else ⟨p.volume, p.parts.dropLast⟩

/-- Whether the place is above the top of its volume. -/
def isAbove (p : Place) : Bool := !p.parts.isEmpty && p.parts.all (· == upward)

/-- Where a path leads from here, part by part. -/
def follow (here : Place) (path : Path) : Place :=
  if path.isAbsolute then ⟨[], path.parts⟩ else here.descend path.parts

/-- Where a part leads when a double dot cancels the part before it. -/
def step (p : Place) (part : Text) : Place := if part = upward then p.up else p.child part

/-- The place with each double dot cancelling the part before it. -/
def resolved (p : Place) : Place := p.parts.foldl step ⟨p.volume, []⟩

/-- The ending of a name from its last dot on.  A dot at either end of the name does not count. -/
def ending (name : Text) : Text :=
  let tail := (name.reverse.takeWhile (· != '.')).reverse
  let head := (name.reverse.dropWhile (· != '.')).reverse
  if tail.isEmpty || head.length ≤ 1 then [] else '.' :: tail

end Place

/-! ### Null characters -/

/-- A null character where none may be. -/
inductive NullCharacter where
  | inPath
  | inEncoding
deriving DecidableEq, Repr

namespace NullCharacter

/-- The wording of the error. -/
def message : NullCharacter → String
  | .inPath => "embedded null byte"
  | .inEncoding => "embedded null character"

/-- Refuses a text with a null character. -/
def check (e : NullCharacter) (t : Text) : Except NullCharacter Unit :=
  if t.contains '\x00' then .error e else .ok ()

end NullCharacter

end SwatchIndex
