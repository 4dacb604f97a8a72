/-
Trace topics: what is traced while it runs.

Topics are named in lists with commas.  Case and blanks around a name do not matter, and the topic
`all` stands for every topic.  While any topic is on, the channel of traces has a level of its own.
-/
import SwatchIndex.Journal.Event
import SwatchIndex.Text.Blank
import SwatchIndex.Text.Lowercase

namespace SwatchIndex

/-- The topics that are on. -/
structure Topics where
  names : List Text := []
  /-- The level that the channel of traces has of its own.  Without one, it follows the channels
  around it. -/
  level : Option Level := none
deriving DecidableEq, Repr

namespace Topics

/-- The topics that a text names. -/
def named (t : Text) : List Text :=
  ((t.splitOn ',').filter fun part => Text.strip part != []).map fun part =>
    Text.lower (Text.strip part)

/-- Exactly these topics, each once, with the level that goes with them. -/
def ofNames (names : List Text) : Topics :=
  let distinct := names.eraseDups
  ⟨distinct, if distinct.isEmpty then none else some .debug⟩

/-- Exactly the topics that a text names. -/
def ofText (t : Text) : Topics := ofNames (named t)

/-- The topics with those that some texts name. -/
def enable (topics : Topics) (texts : List Text) : Topics :=
  ofNames (topics.names ++ named (Text.join [','] texts))

/-- Whether a topic is on. -/
def enabled (topics : Topics) (topic : Text) : Bool :=
  topics.names.contains "all".toList || topics.names.contains (Text.lower topic)

/-- Whether traces are let through, whatever the level around them. -/
def active (topics : Topics) : Bool := topics.level == some .debug

/-- The topics in order of their characters. -/
def sorted (topics : Topics) : List Text := topics.names.mergeSort fun a b => !decide (b < a)

end Topics

end SwatchIndex
