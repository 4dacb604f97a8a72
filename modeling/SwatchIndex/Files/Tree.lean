/-
A tree of files.

The tree lists its directories and files by place.  A path is walked part by part: every part but
the last has to lead into a directory, and a double dot leads back to the directory above.  What is
above the top of a volume is a directory, of which the tree knows no more than was put there.
Names and paths have a greatest length in bytes.

Not everything that is there can be used.  A directory may refuse to have things in it looked up, or
to have its names listed, and a file may refuse to be read.
-/
import SwatchIndex.Files.Path
import SwatchIndex.Files.Stamp
import SwatchIndex.Text.Quoted

namespace SwatchIndex

/-- Why a file or a directory cannot be used. -/
inductive FileProblem where
  | notFound
  | notDirectory
  | isDirectory
  | nameTooLong
  | denied
  /-- The device failed. -/
  | inputOutput
deriving DecidableEq, Repr

/-- Whether the problem is an answer to someone who asks what is there: nothing is. -/
def FileProblem.isAbsence : FileProblem → Bool
  | .notFound => true
  | .notDirectory => true
  | _ => false

/-- A file or a directory that cannot be used, by the path that was given for it. -/
structure FileError where
  problem : FileProblem
  path : Text
deriving DecidableEq, Repr

/-- The wording of the error. -/
def FileError.message (e : FileError) : String :=
  let reason :=
    match e.problem with
    | .notFound => "[Errno 2] No such file or directory: "
    | .notDirectory => "[Errno 20] Not a directory: "
    | .isDirectory => "[Errno 21] Is a directory: "
    | .nameTooLong => "[Errno 36] File name too long: "
    | .denied => "[Errno 13] Permission denied: "
    | .inputOutput => "[Errno 5] Input/output error: "
  reason ++ Text.str (Text.quoted e.path)

/-- Goes on, unless there is a reason not to. -/
def FileProblem.stop : Option FileProblem → Except FileProblem Unit
  | none => .ok ()
  | some problem => .error problem

/-- What a directory refuses, and why. -/
structure Access where
  /-- To have things in it looked up. -/
  search : Option FileProblem := none
  /-- To have its names listed. -/
  listing : Option FileProblem := none
deriving DecidableEq, Repr

/-- What is at a place. -/
inductive Node where
  | directory (access : Access := {})
  /-- A file, and why it refuses to be read if it does. -/
  | file (bytes : List UInt8) (stamp : Stamp) (refusal : Option FileProblem := none)
deriving DecidableEq, Repr

namespace Node

/-- What a directory refuses; a file has nothing in it to be refused. -/
def access? : Node → Option Access
  | .directory access => some access
  | .file .. => none

/-- Whether the node is a directory. -/
def isDirectory (node : Node) : Bool := node.access?.isSome

/-- Whether the node is a file. -/
def isFile (node : Node) : Bool := node.access?.isNone

end Node

/-- Directories and files by their places. -/
structure Tree where
  nodes : List (Place × Node)
deriving DecidableEq, Repr

namespace Tree

/-- What is at a place. -/
def node? (tree : Tree) (p : Place) : Option Node :=
  if p.isAbove then some .directory else tree.nodes.lookup p

/-! ### Changes -/

/-- The tree with `node` at a place. -/
def put (tree : Tree) (p : Place) (node : Node) : Tree :=
  if tree.nodes.any (·.1 == p) then
    ⟨tree.nodes.map fun entry => if entry.1 == p then (p, node) else entry⟩
  else ⟨tree.nodes ++ [(p, node)]⟩

/-- The tree with a directory at a place and at all places above it. -/
def makeDirectory (tree : Tree) (p : Place) : Tree :=
  (List.range (p.parts.length + 1)).foldl
    (fun tree n =>
      let above : Place := ⟨p.volume, p.parts.take n⟩
      if (tree.node? above).isSome then tree else tree.put above .directory)
    tree

/-- The tree with `node` at a place, and with directories at all places above it. -/
def install (tree : Tree) (p : Place) (node : Node) : Tree :=
  (tree.makeDirectory ⟨p.volume, p.parts.dropLast⟩).put p node

/-- The tree with a file at a place. -/
def write (tree : Tree) (p : Place) (bytes : List UInt8) (stamp : Stamp) : Tree :=
  tree.install p (.file bytes stamp)

/-- The tree without what is at a place or below it. -/
def remove (tree : Tree) (p : Place) : Tree :=
  ⟨tree.nodes.filter fun entry => !(entry.1.volume == p.volume && p.parts.isPrefixOf entry.1.parts)⟩

/-! ### Walking -/

/-- The length of a text in bytes. -/
def byteLength (t : Text) : Nat := (Text.str t).utf8ByteSize

/-- Whether a part is longer than a name may be. -/
def isLongName (part : Text) : Bool := 255 < byteLength part

/-- Whether a path is longer than a path may be. -/
def isLongPath (path : Text) : Bool := 4095 < byteLength path

/-- Where one part leads.  A directory that cannot be searched is not left either, not even by a
double dot, and it does not tell whether the name is too long. -/
def enter (tree : Tree) (here : Place) (part : Text) : Except FileProblem Place :=
  match tree.node? here with
  | none => throw .notFound
  | some (.file ..) => throw .notDirectory
  | some (.directory access) => do
    FileProblem.stop access.search
    if part = upward then pure here.up
    else if isLongName part then throw .nameTooLong
    else if (tree.node? (here.child part)).isNone then throw .notFound
    else pure (here.child part)

/-- Walks the parts from the place `here` on. -/
def walk (tree : Tree) (here : Place) (parts : List Text) : Except FileProblem Place :=
  parts.foldlM tree.enter here

/-- Where a place with double dots leads, if there is something. -/
def locate (tree : Tree) (p : Place) : Except FileProblem Place := tree.walk ⟨p.volume, []⟩ p.parts

/-- Looks up where a place leads and what is there.  No name has a null character, so where one is
asked for there is nothing. -/
def lookUp (tree : Tree) (p : Place) : Except FileProblem (Place × Node) :=
  if p.text.contains '\x00' then throw .notFound
  else if isLongPath p.text then throw .nameTooLong
  else do
    let real ← tree.locate p
    match tree.node? real with
    | none => throw .notFound
    | some node => pure (real, node)

/-- What a place leads to, if it can be looked up. -/
def find? (tree : Tree) (p : Place) : Option Node := (tree.lookUp p).toOption.map Prod.snd

/-- Whether a place leads to a directory. -/
def isDirectory (tree : Tree) (p : Place) : Bool := (tree.find? p).any Node.isDirectory

/-- Whether a place leads to a file. -/
def isFile (tree : Tree) (p : Place) : Bool := (tree.find? p).any Node.isFile

/-- What a place leads to, for someone who asks whether it is there.  That nothing is there is an
answer, but any other problem is an error. -/
def probe (tree : Tree) (p : Place) : Except FileError (Option Node) :=
  match tree.lookUp p with
  | .ok (_, node) => .ok (some node)
  | .error problem => if problem.isAbsence then .ok none else .error ⟨problem, p.text⟩

/-- Whether a place leads to a directory, for someone who asks. -/
def probeDirectory (tree : Tree) (p : Place) : Except FileError Bool :=
  (tree.probe p).map fun found => found.any Node.isDirectory

/-- The content of the file that a place leads to. -/
def read (tree : Tree) (p : Place) : Except FileProblem (List UInt8) := do
  let real ← tree.locate p
  match tree.node? real with
  | none => throw .notFound
  | some (.directory _) => throw .isDirectory
  | some (.file bytes _ refusal) => do
    FileProblem.stop refusal
    pure bytes

/-! ### Listing -/

/-- Opens the directory that a place leads to, to list it: gives where it is. -/
def openDirectory (tree : Tree) (p : Place) : Except FileError Place :=
  let opened : Except FileProblem Place := do
    match ← tree.lookUp p with
    | (_, .file ..) => throw .notDirectory
    | (real, .directory access) => do
      FileProblem.stop access.listing
      pure real
  opened.mapError fun problem => ⟨problem, p.text⟩

/-- The names in the directory that a place leads to, each with whether it is a directory's. -/
def entries (tree : Tree) (p : Place) : Except FileError (List (Text × Bool)) := do
  let real ← tree.openDirectory p
  pure (tree.nodes.filterMap fun (q, node) =>
    if q.volume == real.volume && q.parts.length == real.parts.length + 1 &&
        real.parts.isPrefixOf q.parts then q.parts.getLast?.map (·, node.isDirectory)
    else none)

/-- The parts that lead from the directory at a place to each directory below it, whether those on
the way can be listed or not. -/
def below (tree : Tree) (p : Place) : List (List Text) :=
  match tree.locate p with
  | .error _ => []
  | .ok real =>
    tree.nodes.filterMap fun (q, node) =>
      if node.isDirectory && q.volume == real.volume && q != real &&
          real.parts.isPrefixOf q.parts then some (q.parts.drop real.parts.length)
      else none

end Tree

end SwatchIndex
