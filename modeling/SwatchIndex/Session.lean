/-
Sessions: the library at work on files, with what it remembers from one request to the next.

A session has a tree of files and a place in it, an environment, the cache of configurations, the
trace topics that are on, the counter of versions and a journal of what happened.  A request is an
action on the session; one that fails keeps the changes it made before.
-/
import SwatchIndex.Editor.Decoration
import SwatchIndex.Editor.Item
import SwatchIndex.Fault
import SwatchIndex.Journal.Topics
import SwatchIndex.Registry.Holder

namespace SwatchIndex

/-- A path as someone wrote it, or a place that is known already. -/
inductive Location where
  | path (p : Path)
  | place (p : Place)
deriving DecidableEq, Repr

/-- The location in writing. -/
def Location.text : Location → Text
  | .path p => p.text
  | .place p => p.text

/-- What a session remembers. -/
structure Session where
  tree : Tree
  /-- Where relative paths start. -/
  here : Place
  /-- Where paths that start with a tilde lead, unless the environment says. -/
  home : Place
  /-- The home directories of users, by their names. -/
  users : List (Text × Text) := []
  /-- Where the settings that come with the library are. -/
  packaged : Place
  environment : List (Text × Text) := []
  /-- What there is to read files with. -/
  readers : Readers := {}
  cache : Config.Cache := []
  topics : Topics := {}
  /-- The version of the next registry. -/
  nextVersion : Nat := 1
  /-- The stamp of the next file. -/
  clock : Nat := 1
  /-- What happened, in order. -/
  journal : List Event := []

/-- An action on a session, which may fail. -/
abbrev Act := ExceptT Fault (StateM Session)

namespace Session

/-- The text of the settings that come with the library. -/
def packagedSettings : Text :=
  ("\x7b\n  \"include\": [\"**/*.css\"],\n  \"exclude\": [\"**/node_modules/**\"],\n" ++
    "  \"max_files\": 100,\n  \"max_text_length\": 2000000,\n  \"max_matches\": 10000,\n" ++
    "  \"resolve_depth\": 0,\n  \"encoding\": \"utf-8\"\n\x7d\n").toList

/-- A session that starts in an empty directory, with the library's own files below `library`. -/
def start (here library : Place) : Session :=
  let packaged := (library.child "data".toList).child "settings.json".toList
  let tree := ((Tree.mk []).makeDirectory ⟨[], []⟩).makeDirectory here
  { tree := tree.write packaged (Encoding.utf8Bytes packagedSettings) (.tick 0)
    here, home := here, packaged }

/-- Reports events; a trace is dropped unless its topic is on. -/
def report (events : List Event) : Act Unit :=
  modify fun s => { s with journal := s.journal ++ events.filter fun e =>
    match e.topic? with
    | some topic => s.topics.enabled topic
    | none => true }

/-- An outcome whose error is a fault. -/
def orFault (fault : ε → Fault) : Except ε α → Act α
  | .ok a => pure a
  | .error e => throw (fault e)

/-- Takes a version from the counter. -/
def takeVersion : Act Nat := do
  let s ← get
  set { s with nextVersion := s.nextVersion + 1 }
  pure s.nextVersion

/-! ### Files and environment -/

/-- The place that a written path leads to, double dots cancelled. -/
def resolvedPath (s : Session) (path : Text) : Place := (s.here.follow (.parse path)).resolved

/-- The place that a location leads to, double dots cancelled. -/
def placeOf (s : Session) : Location → Place
  | .path p => (s.here.follow p).resolved
  | .place p => p.resolved

/-- Writes a file, with a given stamp or at the next tick. -/
def write (path : Text) (bytes : List UInt8) (stamp : Option Stamp) : Act Unit :=
  modify fun s =>
    let stamp := stamp.getD (.tick s.clock)
    { s with tree := s.tree.write (s.resolvedPath path) bytes stamp, clock := s.clock + 1 }

/-- Makes a directory. -/
def makeDirectory (path : Text) : Act Unit :=
  modify fun s => { s with tree := s.tree.makeDirectory (s.resolvedPath path) }

/-- Removes a file or a directory. -/
def remove (path : Text) : Act Unit :=
  modify fun s => { s with tree := s.tree.remove (s.resolvedPath path) }

/-- Sets a variable of the environment, or takes it out. -/
def setVariable (name : Text) (value : Option Text) : Act Unit :=
  modify fun s =>
    let others := s.environment.filter fun entry => entry.1 != name
    { s with environment := others ++ (value.map fun v => (name, v)).toList }

/-! ### Topics -/

/-- Switches on exactly the topics that the environment names. -/
def reloadTopics : Act Unit :=
  modify fun s =>
    let named := (s.environment.lookup "CSS_VAR_INDEX_TRACE".toList).getD []
    { s with topics := .ofText named }

/-- Switches on the topics that some texts name. -/
def enableTopics (texts : List Text) : Act Unit :=
  modify fun s => { s with topics := s.topics.enable texts }

/-- What stands in front of a template when it is traced. -/
def traceHead : Text := "[%s] ".toList

/-- Traces a template with its values, if the topic is on. -/
def trace (topic template : Text) (values : List Value) : Act Unit := do
  if (← get).topics.enabled topic then
    let message ← orFault .template (Template.fillFrom traceHead.length template values)
    report [.noted topic (Text.str message)]

/-! ### Scanning and indexing -/

/-- Parses a stylesheet. -/
def parseText (text : Text) (source : Option Text) (limits : ScanLimits) :
    Act (List Definition) := do
  report (Indexing.scanEvents text source limits)
  orFault .numeral (parse text source limits)

/-- Makes `n` requests to the scan of a stylesheet. -/
def request (n : Nat) (text : Text) (source : Option Text) (limits : ScanLimits) :
    Act (List Scan.Answer) := do
  report (Indexing.requestEvents n text source limits)
  pure ((scan text source limits).answers n)

/-- Parses a file. -/
def parseFile (path : Text) (encoding : Spelling) (limits : ScanLimits) :
    Act (List Definition) := do
  let s ← get
  let path := Path.parse path
  let read := Reading.readFile s.tree s.readers.codecs (s.here.follow path) path.text encoding
  let text ← orFault .reading read
  parseText text (some path.text) limits

/-- The text of a file, or nothing if it is passed over. -/
def readUnit (path : Text) (encoding : Spelling) : Act (Option Text) := do
  let s ← get
  let parsed := Path.parse path
  let read :=
    Reading.readFile s.tree s.readers.codecs (s.here.follow parsed) parsed.text encoding
  report (Reading.unitEvents path read)
  orFault .reading (Reading.unitText read)

/-- Makes a registry of entries, and of collisions if there are any. -/
def construct (entries : List (Text × Definition)) (collisions : List Collision := []) :
    Act Registry := do
  pure (.ofEntries entries collisions (← takeVersion))

/-- Builds a registry of units. -/
def build (units : List (List Definition)) : Act Registry := do
  let r := Registry.build units (← takeVersion)
  report (Indexing.buildEvents r)
  pure r

/-- Resolves the aliases of a registry. -/
def resolve (r : Registry) (depth : Int) : Act Registry := do
  report (Indexing.resolveEvents r depth)
  if depth ≤ 0 then pure r else pure (r.resolve depth (← takeVersion))

/-- The colour that a definition has or inherits. -/
def colorOf (r : Registry) (depth : Int) (d : Definition) : Act (Option Text) := do
  report (Indexing.cycleEvents r depth d)
  pure (Alias.colorOf r depth d)

/-- Parses units. -/
def parseUnits (settings : Settings) (units : List SourceUnit) : Act (List (List Definition)) := do
  report (Indexing.unitEvents settings units)
  orFault .numeral (Indexing.parseUnits settings units)

/-- Indexes units. -/
def index (settings : Settings) (units : List SourceUnit) : Act Registry := do
  let s ← get
  report (Indexing.indexEvents settings units s.nextVersion)
  let (result, next) := Indexing.index settings units s.nextVersion
  modify fun s => { s with nextVersion := next }
  orFault .numeral result

/-- Finds the stylesheets below a directory. -/
def discover (root : Text) (included excluded : List Spelling) (bound : Int) :
    Act (List Place) := do
  orFault .null (NullCharacter.inPath.check root)
  let s ← get
  let root := s.resolvedPath root
  report (Reading.discoveryEvents s.tree root included excluded bound)
  orFault .discovery (SwatchIndex.discover s.tree root included excluded bound)

/-- All stylesheets below a directory, or nothing if it is none. -/
def candidates (root : Text) (included excluded : List Spelling) :
    Act (Option (List Place)) := do
  orFault .null (NullCharacter.inPath.check root)
  let s ← get
  let root := s.resolvedPath root
  if ← orFault (.discovery ∘ .file) (s.tree.probeDirectory root) then
    some <$> orFault .discovery (Discovery.candidates s.tree root included excluded)
  else
    report [.noRoot root]
    pure none

/-- Reads the files that a discovery found. -/
def readFiles (encoding : Spelling) (files : List Place) : Act (List SourceUnit) := do
  let s ← get
  report (Reading.filesEvents s.tree s.readers.codecs encoding files)
  orFault .reading (Reading.units s.tree s.readers.codecs encoding files)

/-- Indexes the stylesheets below a directory. -/
def indexWorkspace (root : Text) (settings : Settings) : Act Registry := do
  let files ← discover root settings.included settings.excluded settings.maxFiles
  index settings (← readFiles settings.encoding files)

/-! ### Using a registry -/

/-- Makes a registry the current one of a holder. -/
def publish (h : Holder) (r : Registry) : Act (Registry × Holder) := do
  let (previous, h) := h.publish r
  report [.published r previous]
  pure (previous, h)

/-- The name being typed at the end of a text. -/
def classify (text : Text) : Act (Option Context) := do
  let context := SwatchIndex.classify text
  report (context.map Event.classified).toList
  pure context

/-- The names that can be typed at the end of a text. -/
def complete (text : Text) (r : Registry) : Act (Option (Context × List Definition)) := do
  let _ ← classify text
  pure (SwatchIndex.complete text r)

/-- That candidates were ranked, if anything was typed to rank them by. -/
def rankEvents (cutoff : Float) (typed : Text) (pool : List Definition) : List Event :=
  if (Ranking.bare typed).isEmpty then []
  else
    let ranking := Ranking.of .double cutoff typed pool
    [.ranked typed ranking.leading.length ranking.similar.length]

/-- Ranks candidates. -/
def rank (cutoff : Float) (typed : Text) (pool : List Definition) (bound : Option Int) :
    Act (List Definition) := do
  report (rankEvents cutoff typed pool)
  pure (SwatchIndex.rank .double cutoff typed pool bound)

/-- The items for the name being typed at the end of a text. -/
def items (text : Text) (r : Registry) (n : Narrowing) : Act (Option (Context × List Item)) := do
  match ← classify text with
  | none => pure none
  | some context =>
    if n.rank then report (rankEvents Ranking.defaultCutoff context.typed r.definitions)
    pure (SwatchIndex.offer text r n)

/-- Offers items to an editor. -/
def offer (text : Text) (r : Registry) (n : Narrowing) : Act (Option (Context × List Item)) := do
  match ← items text r n with
  | none => pure none
  | some (context, offered) =>
    report [.offered offered.length context.typed]
    pure (some (context, offered))

/-- The usages in a text. -/
def findUsages (text : Text) (r : Registry) (bound : Option Int) : Act (List Usage) :=
  orFault .bound (SwatchIndex.findUsages text r bound)

/-- The decorations of a text. -/
def decorations (text : Text) (r : Registry) (bound : Option Int) : Act (List Decoration) :=
  orFault .bound (SwatchIndex.decorations text r bound)

/-- Hands the decorations of a text over to an editor. -/
def decorate (text : Text) (r : Registry) (bound : Option Int) : Act (List Decoration) := do
  let made ← decorations text r bound
  report [.decorated made.length r.version]
  pure made

/-! ### Configuration -/

/-- Finds the document of a configuration, and where it is. -/
def findConfig (location : Location) (encoding : Text) : Act (Place × Document) := do
  orFault .null (NullCharacter.inPath.check location.text)
  let s ← get
  let place := s.placeOf location
  let (result, cache) := Config.fetch s.tree s.readers s.cache place encoding
  modify fun s => { s with cache }
  let found ← orFault .config result
  report [if found.cached then .configCached place else .configLoaded place]
  pure (place, found.document)

/-- Loads a configuration. -/
def loadConfig (location : Location) (validator : Validator) (encoding : Text) :
    Act Document := do
  let (place, document) ← findConfig location encoding
  modify fun s => { s with cache := Config.touched s.tree validator place s.cache }
  orFault .config (Config.validated validator place document)

/-- Forgets all configurations. -/
def clearCache : Act Unit := modify fun s => { s with cache := [] }

/-- The validator that takes every document. -/
def anyDocument : Validator := { check := .ok }

/-- How a document is refused for what is wrong with its settings. -/
def rejection (e : SettingsError) : Rejection :=
  match e with
  | .unwritable => .failure e.message
  | e => if e.isTypeError then .wrongType e.message else .wrongContent e.message

/-- The validator for settings. -/
def settingsDocument : Validator where
  check d := ((Settings.check d).mapError rejection).map (List.map Assignment.field)

/-- The path of what follows a home directory.  Slashes at the end of the home directory do not
count. -/
def belowHome (home rest : Text) : Path :=
  match Text.dropEndWhile (· == '/') home ++ rest with
  | [] => .parse "/".toList
  | path => .parse path

/-- Where the home directory and what follows it lead.  The environment may say where the home
directory is. -/
def fromHome (s : Session) (rest : Text) : Location :=
  match s.environment.lookup "HOME".toList with
  | none => .place (s.home.descend (Path.parse rest).parts)
  | some home => .path (belowHome home rest)

/-- A path in which a leading tilde stands for the home directory, or with a name for that of a
user.  A name that is no user's stays as it is. -/
def expanded (s : Session) (path : Text) : Location :=
  match path with
  | '~' :: tail =>
    let rest := tail.dropWhile (· != '/')
    match tail.takeWhile (· != '/') with
    | [] => s.fromHome rest
    | name =>
      match s.users.lookup name with
      | some home => .path (belowHome home rest)
      | none => .path (.parse path)
  | path => .path (.parse path)

/-- Where the settings are: where the environment says, or with the library. -/
def settingsLocation (s : Session) : Location :=
  match s.environment.lookup "CSS_VAR_INDEX_SETTINGS".toList with
  | none | some [] => .place s.packaged
  | some path => s.expanded path

/-- Loads settings, from where they are unless a location is given. -/
def loadSettings (location : Option Location) : Act Settings := do
  let s ← get
  let (place, document) ← findConfig (location.getD s.settingsLocation) "utf-8".toList
  let fields ← orFault (.config ∘ Config.refusal place ∘ rejection) (Settings.check document)
  let settings := Settings.ofAssignments fields
  report [.settingsLoaded settings]
  pure settings

end Session

end SwatchIndex
