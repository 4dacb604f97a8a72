/-
Words of a command line: which of them are options.

A long option may be given by any head of its name that no other option shares, and with its value
behind an equals sign.  A word that looks like a negative number or that holds a space is not taken
for an option, and behind a double dash no word is.
-/
import SwatchIndex.Numeral
import SwatchIndex.Text.Quoted

namespace SwatchIndex.CommandLine

/-- What an option takes. -/
inductive OptionKind where
  | help
  | flag
  | word
  | integer
deriving DecidableEq, Repr

/-- An option by its names. -/
structure OptionSpec where
  names : List Text
  kind : OptionKind
deriving DecidableEq, Repr

/-- All names of an option, for messages. -/
def OptionSpec.label (o : OptionSpec) : String := Text.str (Text.join ['/'] o.names)

/-- The last name of an option, under which its value is kept. -/
def OptionSpec.key (o : OptionSpec) : Text := o.names.getLastD []

/-- A command or a part of one: its name in messages, its options and the arguments it asks for. -/
structure Grammar where
  program : Text
  options : List OptionSpec
  arguments : List Text
deriving DecidableEq, Repr

/-- The value that is part of an option's word. -/
inductive Attached where
  /-- There is none. -/
  | nothing
  /-- Behind a long name and an equals sign. -/
  | afterEquals (value : Text)
  /-- Behind a name of one letter, with or without an equals sign. -/
  | joined (value : Text)
deriving DecidableEq, Repr

/-- What a word is. -/
inductive Word where
  | argument (text : Text)
  | doubleDash
  | unknownOption (text : Text)
  | option (text : Text) (spec : OptionSpec) (attached : Attached)
deriving DecidableEq, Repr

/-- The word as it was given. -/
def Word.text : Word → Text
  | .argument text => text
  | .doubleDash => "--".toList
  | .unknownOption text => text
  | .option text _ _ => text

/-- Why a command is not carried out. -/
inductive Stop where
  /-- Help was asked for. -/
  | help
  /-- The command line is wrong. -/
  | usage (program : Text) (message : String)
deriving DecidableEq, Repr

namespace Grammar

/-- The names of all options, with their options. -/
def names (g : Grammar) : List (Text × OptionSpec) :=
  g.options.flatMap fun o => o.names.map fun name => (name, o)

/-- Whether a name is a dash and one letter. -/
def isShort : Text → Bool
  | ['-', c] => c != '-'
  | _ => false

/-- The part of a word before its first equals sign, and what follows the sign. -/
def splitEquals (w : Text) : Text × Attached :=
  match w.dropWhile (· != '=') with
  | [] => (w, .nothing)
  | _ :: value =>
    let name := w.takeWhile (· != '=')
    (name, if isShort name then .joined value else .afterEquals value)

/-- The options that a word may stand for without being their name. -/
def candidates (g : Grammar) (w : Text) : List (Text × OptionSpec × Attached) :=
  match w with
  | '-' :: '-' :: _ =>
    let (head, attached) := splitEquals w
    (g.names.filter fun (name, _) => head.isPrefixOf name).map fun (name, o) => (name, o, attached)
  | _ =>
    g.names.filterMap fun (name, o) =>
      if name = w.take 2 then some (name, o, .joined (w.drop 2))
      else if w.isPrefixOf name then some (name, o, .nothing)
      else none

/-- Whether a word looks like a negative number, a final newline aside. -/
def looksNegative (w : Text) : Bool :=
  let body := if w.getLast? == some '\n' then w.dropLast else w
  let isDigit c := (Numeral.digit? c).isSome
  match body with
  | '-' :: number =>
    match number.dropWhile isDigit with
    | [] => !number.isEmpty
    | '.' :: fraction => !fraction.isEmpty && fraction.all isDigit
    | _ => false
  | _ => false

/-- What a word before a double dash is. -/
def word (g : Grammar) (w : Text) : Except Stop Word :=
  if w.head? != some '-' then .ok (.argument w)
  else
    match g.names.lookup w with
    | some o => .ok (.option w o .nothing)
    | none =>
      if w.length = 1 then .ok (.argument w)
      else
        let (head, attached) := splitEquals w
        match g.names.lookup head with
        | some o => .ok (.option w o attached)
        | none =>
          match g.candidates w with
          | [(_, o, attached)] => .ok (.option w o attached)
          | [] =>
            if looksNegative w || w.contains ' ' then .ok (.argument w) else .ok (.unknownOption w)
          | several =>
            let names := several.map fun (name, _, _) => Text.str name
            .error (.usage g.program ("ambiguous option: " ++ Text.str w ++ " could match " ++
              ", ".intercalate names))

/-- What the words of a command line are. -/
def words (g : Grammar) : List Text → Except Stop (List Word)
  | [] => .ok []
  | w :: rest =>
    if w = "--".toList then .ok (.doubleDash :: rest.map .argument)
    else do
      let first ← g.word w
      let others ← g.words rest
      pure (first :: others)

end Grammar

end SwatchIndex.CommandLine
