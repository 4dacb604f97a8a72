/-
Settings in a document, and the check that a document holds nothing else.

Unknown keys are reported first, all of them, before any value is looked at.  Then the fields are
checked in the order of the document, and the first that is wrong is reported.
-/
import SwatchIndex.Document.Value
import SwatchIndex.Settings.Basic

namespace SwatchIndex

/-- The settings by which documents differ from the defaults. -/
inductive Setting where
  | included
  | excluded
  | maxFiles
  | maxTextLength
  | maxMatches
  | resolveDepth
  | encoding
deriving DecidableEq, Repr

namespace Setting

/-- The key of a setting. -/
def key : Setting → Text
  | .included => "include".toList
  | .excluded => "exclude".toList
  | .maxFiles => "max_files".toList
  | .maxTextLength => "max_text_length".toList
  | .maxMatches => "max_matches".toList
  | .resolveDepth => "resolve_depth".toList
  | .encoding => "encoding".toList

/-- All settings. -/
def all : List Setting :=
  [.included, .excluded, .maxFiles, .maxTextLength, .maxMatches, .resolveDepth, .encoding]

/-- The setting of a key. -/
def ofKey? (key : Spelling) : Option Setting := all.find? fun s => .ofText s.key == key

end Setting

/-- What is wrong with a document of settings. -/
inductive SettingsError where
  | unknownKeys (keys : List Spelling)
  | notGlobs (setting : Setting)
  | notInteger (setting : Setting) (found : String)
  | negative (setting : Setting) (n : Int)
  /-- A negative number that is too long to be given in the message. -/
  | unwritable
  | notEncoding
deriving DecidableEq, Repr

namespace SettingsError

/-- Whether a value has the wrong type, rather than the document the wrong content. -/
def isTypeError : SettingsError → Bool
  | .unknownKeys _ => false
  | .notGlobs _ => true
  | .notInteger .. => true
  | .negative .. => false
  | .unwritable => false
  | .notEncoding => true

/-- The wording of the error. -/
def message : SettingsError → String
  | .unknownKeys keys =>
    "unknown settings keys: " ++ Spelling.str ((Spelling.ofString ", ").intercalate keys)
  | .notGlobs s => "'" ++ Text.str s.key ++ "' must be a list of glob strings"
  | .notInteger s found => "'" ++ Text.str s.key ++ "' must be an integer, got " ++ found
  | .negative s n => "'" ++ Text.str s.key ++ "' must be >= 0, got " ++ toString n
  | .unwritable => Numeral.unwritable
  | .notEncoding => "'encoding' must be a non-empty string"

end SettingsError

/-- A checked field. -/
inductive Assignment where
  | included (globs : List Spelling)
  | excluded (globs : List Spelling)
  | maxFiles (n : Nat)
  | maxTextLength (n : Nat)
  | maxMatches (n : Nat)
  | resolveDepth (n : Nat)
  | encoding (name : Spelling)
deriving DecidableEq, Repr

namespace Assignment

/-- The settings with the checked value. -/
def apply (s : Settings) : Assignment → Settings
  | .included globs => { s with included := globs }
  | .excluded globs => { s with excluded := globs }
  | .maxFiles n => { s with maxFiles := n }
  | .maxTextLength n => { s with maxTextLength := n }
  | .maxMatches n => { s with maxMatches := n }
  | .resolveDepth n => { s with resolveDepth := n }
  | .encoding name => { s with encoding := name }

/-- The field as it stands in a document. -/
def field : Assignment → Spelling × Value
  | .included globs => (.ofText Setting.included.key, .list (globs.map .string))
  | .excluded globs => (.ofText Setting.excluded.key, .list (globs.map .string))
  | .maxFiles n => (.ofText Setting.maxFiles.key, .int n)
  | .maxTextLength n => (.ofText Setting.maxTextLength.key, .int n)
  | .maxMatches n => (.ofText Setting.maxMatches.key, .int n)
  | .resolveDepth n => (.ofText Setting.resolveDepth.key, .int n)
  | .encoding name => (.ofText Setting.encoding.key, .string name)

end Assignment

namespace Settings

/-- A value that is a string. -/
def string? : Value → Option Spelling
  | .string s => some s
  | _ => none

/-- Globs: a list of strings, or one string alone. -/
def checkGlobs (setting : Setting) : Value → Except SettingsError (List Spelling)
  | .string s => .ok [s]
  | .list items =>
    match items.mapM string? with
    | some globs => .ok globs
    | none => .error (.notGlobs setting)
  | _ => .error (.notGlobs setting)

/-- A bound: an integer that is not negative. -/
def checkBound (setting : Setting) : Value → Except SettingsError Nat
  | .int (.ofNat n) => .ok n
  | .int n => .error (if Numeral.isWritable n then .negative setting n else .unwritable)
  | v => .error (.notInteger setting v.typeName)

/-- The name of an encoding: a string that is not empty. -/
def checkEncoding : Value → Except SettingsError Spelling
  | .string (p :: rest) => .ok (p :: rest)
  | _ => .error .notEncoding

/-- Checks the value of a setting. -/
def checkField (setting : Setting) (v : Value) : Except SettingsError Assignment :=
  match setting with
  | .included => (checkGlobs setting v).map .included
  | .excluded => (checkGlobs setting v).map .excluded
  | .maxFiles => (checkBound setting v).map .maxFiles
  | .maxTextLength => (checkBound setting v).map .maxTextLength
  | .maxMatches => (checkBound setting v).map .maxMatches
  | .resolveDepth => (checkBound setting v).map .resolveDepth
  | .encoding => (checkEncoding v).map .encoding

/-- The keys of a document that are no settings, in order of their code points. -/
def unknownKeys (d : Document) : List Spelling :=
  ((d.map Prod.fst).filter fun key => (Setting.ofKey? key).isNone).mergeSort
    fun a b => !decide (b < a)

/-- Checks the fields whose keys are settings, in order. -/
def checkFields : Document → Except SettingsError (List Assignment)
  | [] => .ok []
  | (key, v) :: rest =>
    match Setting.ofKey? key with
    | none => checkFields rest
    | some setting => do
      let first ← checkField setting v
      let others ← checkFields rest
      pure (first :: others)

/-- Checks a document of settings. -/
def check (d : Document) : Except SettingsError (List Assignment) :=
  if (unknownKeys d).isEmpty then checkFields d else .error (.unknownKeys (unknownKeys d))

/-- The settings of checked fields; what is not given takes its default. -/
def ofAssignments (fields : List Assignment) : Settings := fields.foldl Assignment.apply {}

end Settings

end SwatchIndex
