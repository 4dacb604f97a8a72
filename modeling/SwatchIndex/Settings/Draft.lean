/-
Drafts: settings that nobody has checked.

A draft has a value of any kind for each setting.  It is made of the defaults and the fields of
documents; the only thing that can be wrong with a field is its name.
-/
import SwatchIndex.Settings.Check

namespace SwatchIndex

/-- Settings that nobody has checked. -/
structure Draft where
  value : Setting → Value

/-- What is wrong with a field. -/
inductive DraftError where
  /-- No setting has this name. -/
  | unknown (key : Spelling)
  /-- The name is taken by the draft that is being made. -/
  | taken
  /-- The name is taken by the draft that is being overridden. -/
  | takenByOverridden
deriving DecidableEq, Repr

/-- The wording of the error. -/
def DraftError.message : DraftError → String
  | .unknown key =>
    "IndexSettings.__init__() got an unexpected keyword argument '" ++ key.str ++ "'"
  | .taken => "IndexSettings.__init__() got multiple values for argument 'self'"
  | .takenByOverridden => "IndexSettings.with_overrides() got multiple values for argument 'self'"

namespace Draft

/-- The value of a setting in checked settings. -/
def valueIn (s : Settings) : Setting → Value
  | .included => .list (s.included.map .string)
  | .excluded => .list (s.excluded.map .string)
  | .maxFiles => .int s.maxFiles
  | .maxTextLength => .int s.maxTextLength
  | .maxMatches => .int s.maxMatches
  | .resolveDepth => .int s.resolveDepth
  | .encoding => .string s.encoding

/-- Checked settings as a draft. -/
def ofSettings (s : Settings) : Draft := ⟨valueIn s⟩

/-- The draft with another value for a setting. -/
def put (draft : Draft) (setting : Setting) (v : Value) : Draft :=
  ⟨fun other => if other = setting then v else draft.value other⟩

/-- The name that a draft goes by while fields are given to it. -/
def ownName : Spelling := .ofString "self"

/-- The draft with one field more. -/
def putField (draft : Draft) (field : Spelling × Value) : Except DraftError Draft :=
  match Setting.ofKey? field.1 with
  | some setting => .ok (draft.put setting field.2)
  | none => .error (if field.1 = ownName then .taken else .unknown field.1)

/-- The defaults with the fields of a document in their place. -/
def ofDocument (d : Document) : Except DraftError Draft := d.foldlM putField (ofSettings {})

/-- Whether a field gives no value. -/
def isEmptyField (field : Spelling × Value) : Bool :=
  match field.2 with
  | .null => true
  | _ => false

/-- The draft with the fields of a document in their place.  Fields without a value do not count. -/
def override (draft : Draft) (d : Document) : Except DraftError Draft :=
  if d.any fun field => field.1 == ownName then .error .takenByOverridden
  else (d.filter fun field => !isEmptyField field).foldlM putField draft

/-- The draft as a document, with a field for each setting. -/
def document (draft : Draft) : Document :=
  Setting.all.map fun setting => (.ofText setting.key, draft.value setting)

end Draft

end SwatchIndex
