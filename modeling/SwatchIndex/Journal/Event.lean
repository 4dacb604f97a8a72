/-
The journal: what is reported while an index is built and used.

An event is what happened.  It has a level, the name of the channel on which it is reported, and a
wording.  Traces are events of a topic and are reported only while the topic is on.
-/
import SwatchIndex.Completion
import SwatchIndex.Files.Path
import SwatchIndex.Settings.Basic

namespace SwatchIndex

/-- How important an event is. -/
inductive Level where
  | debug
  | info
  | warning
deriving DecidableEq, Repr

namespace Level

/-- The rank of a level. -/
def rank : Level → Nat
  | .debug => 10
  | .info => 20
  | .warning => 30

/-- The name of a level. -/
def label : Level → String
  | .debug => "DEBUG"
  | .info => "INFO"
  | .warning => "WARNING"

end Level

/-- What happened. -/
inductive Event where
  /-- A text was cut before it was scanned. -/
  | clipped (source : Option Text) (length : Nat) (bound : Int)
  /-- A declaration was found. -/
  | declared (d : Definition)
  /-- A definition took the place of another one. -/
  | redefined (c : Collision)
  /-- A registry was built. -/
  | merged (r : Registry)
  /-- An alias chain came back to a name. -/
  | cycle (through owner : Text)
  /-- Aliases were resolved. -/
  | resolved (count : Nat) (depth : Int)
  /-- A registry became the current one. -/
  | published (r previous : Registry)
  /-- A place for a completion was found. -/
  | classified (c : Context)
  /-- Candidates were ranked. -/
  | ranked (typed : Text) (leading similar : Nat)
  /-- Items were offered. -/
  | offered (count : Nat) (typed : Text)
  /-- Decorations were handed over. -/
  | decorated (count version : Nat)
  /-- The root of a discovery is no directory. -/
  | noRoot (root : Place)
  /-- A discovery found more files than its bound. -/
  | capped (bound : Int) (total : Nat) (root : Place)
  /-- A file could not be read. -/
  | unreadable (path : Text) (cause : String)
  /-- A unit was parsed. -/
  | parsed (path : Text) (count : Nat)
  /-- An index was built. -/
  | indexed (r : Registry) (units : Nat)
  /-- A configuration was read. -/
  | configLoaded (place : Place)
  /-- A configuration was found in the cache. -/
  | configCached (place : Place)
  /-- Settings were loaded. -/
  | settingsLoaded (s : Settings)
  /-- A trace of its own. -/
  | noted (topic : Text) (message : String)

namespace Event

/-- The topic of a trace. -/
def topic? : Event → Option Text
  | .declared _ => some "parser".toList
  | .merged _ => some "registry".toList
  | .classified _ => some "completion".toList
  | .noted topic _ => some topic
  | _ => none

/-- The level of an event. -/
def level : Event → Level
  | .noRoot _ => .warning
  | .unreadable .. => .warning
  | .capped .. => .info
  | .indexed .. => .info
  | _ => .debug

/-- The channel on which an event is reported. -/
def channel : Event → String
  | .clipped .. => "css_var_index.extraction.parser.variables"
  | .redefined _ => "css_var_index.index.registry"
  | .cycle .. => "css_var_index.index.resolve"
  | .resolved .. => "css_var_index.index.resolve"
  | .published .. => "css_var_index.index.snapshot"
  | .ranked .. => "css_var_index.matching.ranking"
  | .offered .. => "css_var_index.host.completions"
  | .decorated .. => "css_var_index.host.decorations"
  | .noRoot _ => "css_var_index.discovery"
  | .capped .. => "css_var_index.discovery"
  | .unreadable .. => "css_var_index.extraction.orchestrator"
  | .parsed .. => "css_var_index.extraction.orchestrator"
  | .indexed .. => "css_var_index.extraction.orchestrator"
  | .configLoaded _ => "css_var_index.extraction.general.utils.load_config"
  | .configCached _ => "css_var_index.extraction.general.utils.load_config"
  | .settingsLoaded _ => "css_var_index.extraction.general.utils.settings"
  | .declared _ => "css_var_index.trace"
  | .merged _ => "css_var_index.trace"
  | .classified _ => "css_var_index.trace"
  | .noted .. => "css_var_index.trace"

/-- A quoted text, for messages. -/
def quoted (t : Text) : String := Text.str (Text.quoted t)

/-- The source of a definition, or a stand-in for one that has none. -/
def sourceOr (standIn : String) (source : Option Text) : String :=
  match source with
  | none | some [] => standIn
  | some t => Text.str t

/-- What happened, in words. -/
def body : Event → String
  | .clipped source length bound =>
    "Truncating " ++ sourceOr "<text>" source ++ " from " ++ toString length ++ " to " ++
      toString bound ++ " characters before scanning"
  | .declared d =>
    Text.str d.name ++ " = " ++ quoted d.value ++ " -> " ++ ((d.color.map Text.str).getD "None")
  | .redefined c =>
    Text.str c.name ++ " redefined: " ++ quoted c.replacement.value ++ " (" ++
      sourceOr "?" c.replacement.source ++ ") replaces " ++ quoted c.replaced.value ++ " (" ++
      sourceOr "?" c.replaced.source ++ ")"
  | .merged r =>
    "v" ++ toString r.version ++ ": " ++ toString r.size ++ " names, " ++
      toString r.collisions.length ++ " collisions"
  | .cycle through owner =>
    "Reference cycle through " ++ Text.str through ++ "; leaving " ++ Text.str owner ++
      " unresolved"
  | .resolved count depth =>
    "Resolved " ++ toString count ++ " aliased colors (max_depth=" ++ toString depth ++ ")"
  | .published r previous =>
    "Published " ++ r.describe ++ " (replaced v" ++ toString previous.version ++ ")"
  | .classified c =>
    c.kind.label ++ " " ++ quoted c.typed ++ " at " ++ toString c.start ++ ":" ++ toString c.stop
  | .ranked typed leading similar =>
    "rank " ++ quoted typed ++ ": " ++ toString leading ++ " prefix, " ++ toString similar ++
      " fuzzy"
  | .offered count typed => "Offered " ++ toString count ++ " items for " ++ quoted typed
  | .decorated count version =>
    "Pushed " ++ toString count ++ " decorations (registry v" ++ toString version ++ ")"
  | .noRoot root => "Discovery root is not a directory: " ++ Text.str root.text
  | .capped bound total root =>
    "Discovery capped at " ++ toString bound ++ " of " ++ toString total ++ " files under " ++
      Text.str root.text
  | .unreadable path cause => "Failed to read " ++ Text.str path ++ ": " ++ cause
  | .parsed path count => Text.str path ++ ": " ++ toString count ++ " definitions"
  | .indexed r units =>
    "Indexed " ++ toString r.size ++ " variables from " ++ toString units ++ " units (" ++
      toString r.collisions.length ++ " collisions)"
  | .configLoaded place => "Config loaded: " ++ Text.str place.text
  | .configCached place => "Config cache HIT: " ++ Text.str place.text
  | .settingsLoaded s => "Loaded settings: " ++ s.describe
  | .noted _ message => message

/-- Whether there are words for what happened: settings may hold a number that is too long. -/
def isWordable : Event → Bool
  | .settingsLoaded s => s.isDescribable
  | _ => true

/-- The wording of an event; a trace starts with its topic. -/
def message (e : Event) : String :=
  match e.topic? with
  | some topic => "[" ++ Text.str topic ++ "] " ++ e.body
  | none => e.body

/-- Whether an event is reported to someone who asked for a level.  Traces always are. -/
def reaches (threshold : Level) (e : Event) : Bool :=
  e.topic?.isSome || threshold.rank ≤ e.level.rank

/-- An event on one line. -/
def line (e : Event) : String := e.level.label ++ " " ++ e.channel ++ ": " ++ e.message

end Event

end SwatchIndex
