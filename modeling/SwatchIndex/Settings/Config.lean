/-
Configuration files, and the cache of those that have been read.

A file is read once for each time at which it was written: the cache goes by the file's place and
its stamp.  What could not be read is not kept.  A validator looks at the document each time, fresh
or cached; a document that it refuses has been read, so it is kept.
-/
import SwatchIndex.Document.Json
import SwatchIndex.Encoding.Bytes
import SwatchIndex.Files.Tree

namespace SwatchIndex

/-- Why a validator refuses a document. -/
inductive Rejection where
  /-- A value has the wrong type. -/
  | wrongType (message : String)
  /-- The content is wrong. -/
  | wrongContent (message : String)
  /-- The validator itself failed. -/
  | failure (message : String)
deriving DecidableEq, Repr

/-- A check on documents.  It gives back the document to use.  A validator may also edit the values
inside the document it was handed; these belong to the cache, and `leaves` says what becomes of
them. -/
structure Validator where
  check : Document → Except Rejection Document
  leaves : Document → Document := id

/-- Why a configuration cannot be loaded. -/
inductive ConfigError where
  | notFound (place : Place)
  | unreadable (place : Place) (problem : FileProblem)
  | nullEncoding (place : Place) (e : NullCharacter)
  | undecodable (place : Place) (e : TextError)
  | unparsable (place : Place) (e : ReadError)
  | relaxedUnavailable (name : Text)
  | notObject (name : Text) (found : String)
  | rejectedType (message : String)
  | rejectedContent (message : String)
  | validatorFailed (name : Text) (message : String)
  | unknownEncoding (name : Text)
  | tooDeep (e : TooDeep)
deriving DecidableEq, Repr

/-- The wording of the error. -/
def ConfigError.message : ConfigError → String
  | .notFound place => "Config file not found: " ++ Text.str place.text
  | .unreadable place problem =>
    "Cannot read " ++ Text.str place.text ++ ": " ++ (FileError.mk problem place.text).message
  | .nullEncoding place e => "Cannot parse " ++ Text.str place.text ++ ": " ++ e.message
  | .undecodable place e => "Cannot parse " ++ Text.str place.text ++ ": " ++ e.message
  | .unparsable place e => "Cannot parse " ++ Text.str place.text ++ ": " ++ e.message
  | .relaxedUnavailable name =>
    Text.str name ++ ": .json5 settings need the 'json5' extra installed"
  | .notObject name found => Text.str name ++ ": expected a JSON object, got " ++ found
  | .rejectedType message => message
  | .rejectedContent message => message
  | .validatorFailed name message => Text.str name ++ ": validator failed: " ++ message
  | .unknownEncoding name => "unknown encoding: " ++ Text.str name
  | .tooDeep e => e.message

/-- What there is to read files with. -/
structure Readers where
  /-- The encodings that are known. -/
  codecs : Codecs := Encoding.codecs
  /-- The reader of the relaxed grammar, if one is installed. -/
  relaxed : Option (Text → Except ReadError Value) := none

namespace Config

/-- Documents by the place and the stamp of their files. -/
abbrev Cache := List ((Place × Stamp) × Document)

/-- The reader for the file at a place: that of the relaxed grammar if the file's ending asks for
it. -/
def reader (readers : Readers) (place : Place) :
    Except ConfigError (Text → Except ReadError Value) :=
  if Place.ending place.name == ".json5".toList then
    match readers.relaxed with
    | none => throw (.relaxedUnavailable place.name)
    | some read => pure read
  else pure Json.read

/-- Reads a document in the given encoding. -/
def readValue (tree : Tree) (readers : Readers) (place : Place) (encoding : Text) :
    Except ConfigError Value := do
  let read ← reader readers place
  (NullCharacter.inEncoding.check encoding).mapError (.nullEncoding place)
  let bytes ← (tree.read place).mapError (.unreadable place)
  match readers.codecs encoding with
  | none => throw (.unknownEncoding encoding)
  | some codec => do
    let text ← (codec.readText bytes).mapError (.undecodable place)
    match read text with
    | .ok v => pure v
    | .error (.tooDeep e) => throw (.tooDeep e)
    | .error e => throw (.unparsable place e)

/-- Reads an object. -/
def readDocument (tree : Tree) (readers : Readers) (place : Place) (encoding : Text) :
    Except ConfigError Document := do
  match ← readValue tree readers place encoding with
  | .object fields => pure fields
  | v => throw (.notObject place.name v.typeName)

/-- When the file at a place was written.  A directory is never kept in the cache. -/
def stamp? (tree : Tree) (place : Place) : Option Stamp :=
  match tree.find? place with
  | some (.file _ stamp _) => some stamp
  | _ => none

/-- A document and whether it came from the cache. -/
structure Found where
  document : Document
  cached : Bool

/-- Finds the document at a place, in the cache or by reading it, and the cache afterwards. -/
def fetch (tree : Tree) (readers : Readers) (cache : Cache) (place : Place) (encoding : Text) :
    Except ConfigError Found × Cache :=
  match tree.find? place with
  | none => (.error (.notFound place), cache)
  | some (.directory _) => ((readDocument tree readers place encoding).map (⟨·, false⟩), cache)
  | some (.file _ stamp _) =>
    match cache.lookup (place, stamp) with
    | some document => (.ok ⟨document, true⟩, cache)
    | none =>
      match readDocument tree readers place encoding with
      | .error e => (.error e, cache)
      | .ok document => (.ok ⟨document, false⟩, ((place, stamp), document) :: cache)

/-- The error at a document that is refused. -/
def refusal (place : Place) : Rejection → ConfigError
  | .wrongType message => .rejectedType message
  | .wrongContent message => .rejectedContent message
  | .failure message => .validatorFailed place.name message

/-- What a validator makes of a document. -/
def validated (v : Validator) (place : Place) (document : Document) : Except ConfigError Document :=
  (v.check document).mapError (refusal place)

/-- The cache after a validator has looked at the document of a place. -/
def touched (tree : Tree) (v : Validator) (place : Place) (cache : Cache) : Cache :=
  match stamp? tree place with
  | none => cache
  | some stamp =>
    cache.map fun (key, document) =>
      (key, if key == (place, stamp) then v.leaves document else document)

end Config

end SwatchIndex
