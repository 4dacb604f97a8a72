/-
Reading stylesheets.

A file that cannot be opened, or whose bytes have no meaning in its encoding, is passed over and
reported.  An encoding that is not known is an error, and so is a null character in the path or in
the name of the encoding.  That name comes from a document, so that halves of pairs may be in it,
which is an error too.  A codec may also refuse the bytes as a whole, and that is an error again.
-/
import SwatchIndex.Encoding.Bytes
import SwatchIndex.Files.Discovery
import SwatchIndex.Indexing

namespace SwatchIndex

/-- Why a stylesheet cannot be read. -/
inductive ReadingError where
  | halves (e : Spelling.StrayHalves)
  | null (e : NullCharacter)
  | file (e : FileError)
  | text (e : TextError)
  | unknownEncoding (name : Text)
deriving DecidableEq, Repr

namespace ReadingError

/-- The wording of the error. -/
def message : ReadingError → String
  | .halves e => e.message
  | .null e => e.message
  | .file e => e.message
  | .text e => e.message
  | .unknownEncoding name => "unknown encoding: " ++ Text.str name

/-- Whether a file with this error is passed over. -/
def isPassedOver : ReadingError → Bool
  | .halves _ => false
  | .null _ => false
  | .file _ => true
  | .text (.undecodable _) => true
  | .text (.refused _) => false
  | .unknownEncoding _ => false

end ReadingError

namespace Reading

/-- The text of the file at a place; errors give its path as `shown`. -/
def readFile (tree : Tree) (codecs : Codecs) (place : Place) (shown : Text) (encoding : Spelling) :
    Except ReadingError Text := do
  let encoding ← encoding.read.mapError .halves
  (NullCharacter.inEncoding.check encoding).mapError .null
  (NullCharacter.inPath.check shown).mapError .null
  if Tree.isLongPath shown then throw (.file ⟨.nameTooLong, shown⟩)
  let bytes ← (tree.read place).mapError fun problem => .file ⟨problem, shown⟩
  match codecs encoding with
  | none => throw (.unknownEncoding encoding)
  | some codec => (codec.readText bytes).mapError .text

/-- The text of a file that may be passed over. -/
def unitText (read : Except ReadingError Text) : Except ReadingError (Option Text) :=
  match read with
  | .ok text => .ok (some text)
  | .error e => if e.isPassedOver then .ok none else .error e

/-- That a file is passed over, if it is; `path` is how the file was asked for. -/
def unitEvents (path : Text) (read : Except ReadingError Text) : List Event :=
  match read with
  | .ok _ => []
  | .error e => if e.isPassedOver then [.unreadable path e.message] else []

/-- The file at a place that a discovery found. -/
def readFound (tree : Tree) (codecs : Codecs) (encoding : Spelling) (p : Place) :
    Except ReadingError Text :=
  readFile tree codecs p p.text encoding

/-- The units of the files that a discovery found, or the first error. -/
def units (tree : Tree) (codecs : Codecs) (encoding : Spelling) (files : List Place) :
    Except ReadingError (List SourceUnit) :=
  files.mapM fun p => (unitText (readFound tree codecs encoding p)).map fun text => ⟨p.text, text⟩

/-- The events of reading files, up to the first error. -/
def filesEvents (tree : Tree) (codecs : Codecs) (encoding : Spelling) : List Place → List Event
  | [] => []
  | p :: rest =>
    let read := readFound tree codecs encoding p
    unitEvents p.text read ++
      match unitText read with
      | .ok _ => filesEvents tree codecs encoding rest
      | .error _ => []

/-- The events of a discovery. -/
def discoveryEvents (tree : Tree) (root : Place) (included excluded : List Spelling)
    (bound : Int) : List Event :=
  match tree.probeDirectory root, Discovery.candidates tree root included excluded with
  | .ok false, _ => [.noRoot root]
  | .ok true, .ok files =>
    if bound < Int.ofNat files.length then [.capped bound files.length root] else []
  | _, _ => []

end Reading

end SwatchIndex
