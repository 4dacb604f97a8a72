/-
Carrying out what a command line asks for.

The answer is a document on the standard output.  Events go to the error output, those below a
warning only when asked for, and so does the fault that ends a command.
-/
import SwatchIndex.CommandLine.Request
import SwatchIndex.Document.Printer
import SwatchIndex.Session

namespace SwatchIndex.CommandLine

/-! ### Answers -/

/-- A text that may be missing. -/
def optional (t : Option Text) : Value := (t.map Value.text).getD .null

/-- A field of an answer. -/
def field (name : String) (v : Value) : Spelling × Value := (.ofString name, v)

/-- A definition. -/
def definitionValue (d : Definition) : Value :=
  .object [field "name" (.text d.name), field "value" (.text d.value),
    field "color" (optional d.color), field "source" (optional d.source)]

/-- A usage. -/
def usageValue (u : Usage) : Value :=
  .object [field "start" (.int u.start), field "end" (.int u.stop), field "name" (.text u.name),
    field "color" (.text u.color)]

/-- A completion item. -/
def itemValue (i : Item) : Value :=
  .object [field "label" (.text i.label), field "insert_text" (.text i.insertText),
    field "kind" (.text i.kind.label.toList), field "detail" (optional i.detail),
    field "documentation" (optional i.documentation)]

/-- The items for a name being typed. -/
def completionValue (c : Context) (items : List Item) : Value :=
  .object [field "kind" (.text c.kind.label.toList), field "partial" (.text c.typed),
    field "span" (.list [.int c.start, .int c.stop]), field "items" (.list (items.map itemValue))]

/-! ### Commands -/

/-- The path that an argument gives. -/
def pathOf : Given Text → Act Text
  | .value t => pure t
  | .dropped => throw .droppedPath

/-- The settings under which a request is carried out. -/
def settingsFor (r : Request) : Act Settings := do
  let location := r.config.map fun path => Location.path (.parse path)
  let settings ← Session.loadSettings location
  pure (settings.override
    { maxFiles := r.maxFiles.bind Given.value?, resolveDepth := r.resolveDepth.bind Given.value? })

/-- The stylesheets below a root.  That the bound was dropped shows when the files have been
found. -/
def filesFor (r : Request) (settings : Settings) (root : Text) : Act (List Place) := do
  if r.maxFiles = some .dropped then
    if (← Session.candidates root settings.included settings.excluded).isSome then
      throw (.incomparable "int" "list")
    pure []
  else Session.discover root settings.included settings.excluded settings.maxFiles

/-- The registry of the stylesheets below a root.  That the depth was dropped shows when the
registry has been built. -/
def registryFor (r : Request) (settings : Settings) (root : Given Text) : Act Registry := do
  let files ← filesFor r settings (← pathOf root)
  let units ← Session.readFiles settings.encoding files
  if r.resolveDepth = some .dropped then
    let _ ← Session.build (← Session.parseUnits settings units)
    throw (.incomparable "list" "int")
  Session.index settings units

/-- The paths that a command reads from. -/
def Command.paths : Command → List Text
  | .index root => [root].filterMap Given.value?
  | .usages root file => [root, file].filterMap Given.value?
  | .complete root .. => [root].filterMap Given.value?

/-- The places that a request reads from. -/
def Request.places (r : Request) (s : Session) : List Place :=
  let config := (r.config.map fun path => Location.path (.parse path)).getD s.settingsLocation
  s.placeOf config :: r.command.paths.map s.resolvedPath

/-- The items for a text.  That the limit was dropped shows when there are items to cut. -/
def itemsFor (text : Text) (registry : Registry) (rank : Bool) (limit : Option (Given Int)) :
    Act Value := do
  match ← Session.items text registry ⟨rank, limit.bind Given.value?⟩ with
  | none => pure .null
  | some (context, items) =>
    if limit = some .dropped then throw .droppedLimit
    pure (completionValue context items)

/-- Carries out the command of a request. -/
def answer (r : Request) (settings : Settings) : Act Value := do
  match r.command with
  | .index root =>
    let registry ← registryFor r settings root
    pure (.list (registry.definitions.map definitionValue))
  | .usages root file =>
    let registry ← registryFor r settings root
    let path := (Path.parse (← pathOf file)).text
    match ← Session.readUnit path settings.encoding with
    | none => throw (.cannotRead path)
    | some text =>
      let usages ← Session.findUsages text registry (some settings.maxMatches)
      pure (.list (usages.map usageValue))
  | .complete root text rank limit =>
    let registry ← registryFor r settings root
    match text with
    | .dropped => throw .droppedText
    | .value text => itemsFor text registry rank limit

/-- Carries out a request. -/
def carryOut (r : Request) : Act Value := do
  let settings ← settingsFor r
  answer r settings

/-! ### The program -/

/-- How the program ends. -/
inductive Outcome where
  /-- With help. -/
  | help
  /-- With a line that says what is wrong with the command line. -/
  | usage (line : String)
  /-- With a status and what was written to both outputs. -/
  | finished (status : Nat) (output errors : String)
deriving DecidableEq, Repr

/-- The events that are written for a request. -/
def reported (r : Request) (journal : List Event) : List String :=
  let threshold := if r.debug then Level.debug else .warning
  (journal.filter (Event.reaches threshold)).map Event.line

/-- Lines, each ended by a newline. -/
def linesText (lines : List String) : String := String.join (lines.map (· ++ "\n"))

/-- Carries out a request in a session. -/
def execute (r : Request) (s : Session) : Outcome × Session :=
  let topics :=
    match r.trace with
    | none | some [] => s.topics
    | some names => s.topics.enable [names]
  let (result, after) := (carryOut r).run.run { s with topics, journal := [] }
  let lines := reported r after.journal
  match result with
  | .ok v => (.finished 0 (Text.str v.pretty ++ "\n") (linesText lines), after)
  | .error fault =>
    (.finished 1 "" (linesText (lines ++ ["Error: " ++ fault.message])), after)

/-- Runs the program on its arguments. -/
def run (args : List Text) (s : Session) : Outcome × Session :=
  match parse args with
  | .error .help => (.help, s)
  | .error (.usage name message) => (.usage (Text.str name ++ ": error: " ++ message), s)
  | .ok r => execute r s

end SwatchIndex.CommandLine
