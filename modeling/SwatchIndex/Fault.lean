/-
Everything that can go wrong for someone who uses the library.
-/
import SwatchIndex.Files.Reading
import SwatchIndex.Journal.Template
import SwatchIndex.Settings.Config
import SwatchIndex.Settings.Draft
import SwatchIndex.Settings.Payload
import SwatchIndex.Usage

namespace SwatchIndex

/-- What went wrong. -/
inductive Fault where
  | numeral (e : OverlongNumeral)
  | bound (e : BadBound)
  | null (e : NullCharacter)
  | reading (e : ReadingError)
  | discovery (e : DiscoveryError)
  | config (e : ConfigError)
  | payload (e : PayloadError)
  | document (e : ReadError)
  | draft (e : DraftError)
  | template (e : TemplateError)
  | cannotRead (path : Text)
  /-- A path was asked for, but the word was dropped. -/
  | droppedPath
  /-- A text was asked for, but the word was dropped. -/
  | droppedText
  /-- A number of items was asked for, but the word was dropped. -/
  | droppedLimit
  /-- Two values were to be compared whose types have no order. -/
  | incomparable (left right : String)
deriving DecidableEq, Repr

/-- The wording of the fault. -/
def Fault.message : Fault → String
  | .numeral e => e.message
  | .bound e => e.message
  | .null e => e.message
  | .reading e => e.message
  | .discovery e => e.message
  | .config e => e.message
  | .payload e => e.message
  | .document e => e.message
  | .draft e => e.message
  | .template e => e.message
  | .cannotRead path => "cannot read " ++ Text.str path
  | .droppedPath => "expected str, bytes or os.PathLike object, not list"
  | .droppedText => "expected string or bytes-like object, got 'list'"
  | .droppedLimit => "slice indices must be integers or None or have an __index__ method"
  | .incomparable left right =>
    "'>' not supported between instances of '" ++ left ++ "' and '" ++ right ++ "'"

end SwatchIndex
