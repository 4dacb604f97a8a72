/-
Taking the words of a command line apart.

Options and arguments may be mixed.  A value is taken for each argument that the grammar asks for;
what is left over is kept apart, and so is every option that the grammar does not know.  Missing
arguments are reported when all words have been looked at.
-/
import SwatchIndex.CommandLine.Words

namespace SwatchIndex.CommandLine

/-- A value that was asked for.  A double dash that stands where a value is asked for is dropped,
and leaves no value. -/
inductive Given (α : Type) where
  | value (a : α)
  | dropped
deriving DecidableEq, Repr

/-- The value, unless it was dropped. -/
def Given.value? {α : Type} : Given α → Option α
  | .value a => some a
  | .dropped => none

/-- The value of an option. -/
inductive Bound where
  | flag
  | word (text : Text)
  | integer (n : Int)
  | dropped
deriving DecidableEq, Repr

/-- What has been taken apart. -/
structure Parsed where
  /-- The options, from the last to the first. -/
  options : List (Text × Bound) := []
  arguments : List (Given Text) := []
  leftOver : List Text := []
deriving DecidableEq, Repr

namespace Parsed

/-- The value of an option, by its name. -/
def option? (p : Parsed) (name : String) : Option Bound := p.options.lookup name.toList

/-- Whether a flag was given. -/
def flag (p : Parsed) (name : String) : Bool := (p.option? name).isSome

/-- The text given for an option. -/
def word? (p : Parsed) (name : String) : Option Text :=
  match p.option? name with
  | some (.word t) => some t
  | _ => none

/-- The integer given for an option. -/
def integer? (p : Parsed) (name : String) : Option (Given Int) :=
  match p.option? name with
  | some (.integer n) => some (.value n)
  | some .dropped => some .dropped
  | _ => none

end Parsed

namespace Grammar

/-- The error at an option. -/
def optionError (g : Grammar) (o : OptionSpec) (message : String) : Except Stop α :=
  .error (.usage g.program ("argument " ++ o.label ++ ": " ++ message))

/-- The value of an option that takes one. -/
def bind (g : Grammar) (o : OptionSpec) (value : Text) : Except Stop Bound :=
  if value = "--".toList then .ok .dropped
  else
    match o.kind with
    | .integer =>
      match Numeral.readInt? value with
      | some n => .ok (.integer n)
      | none => g.optionError o ("invalid int value: " ++ Text.str (Text.quoted value))
    | _ => .ok (.word value)

/-- The error at a value for an option that takes none. -/
def refuseValue (g : Grammar) (o : OptionSpec) (value : Text) : Except Stop α :=
  g.optionError o ("ignored explicit argument " ++ Text.str (Text.quoted value))

/-- The options of a word in which names of one letter stand behind one another, the first of them
being `o`. -/
def cluster (g : Grammar) (o : OptionSpec) : Text → Except Stop (List OptionSpec)
  | [] => .ok [o]
  | c :: rest =>
    match g.names.lookup ['-', c] with
    | some next => (g.cluster next rest).map (o :: ·)
    | none => g.refuseValue o (c :: rest)

/-- Sets an option that takes no value. -/
def setFlag (p : Parsed) (o : OptionSpec) : Except Stop Parsed :=
  match o.kind with
  | .help => .error .help
  | _ => .ok { p with options := (o.key, .flag) :: p.options }

/-- Takes an option that takes no value, with the others in its word. -/
def takeFlag (g : Grammar) (o : OptionSpec) (attached : Attached) (p : Parsed) :
    Except Stop Parsed :=
  match attached with
  | .nothing => setFlag p o
  | .afterEquals value => g.refuseValue o value
  | .joined [] => g.refuseValue o []
  | .joined others => do
    let options ← g.cluster o others
    options.foldlM setFlag p

/-- Takes an option, with the word behind it if that is its value. -/
def takeOption (g : Grammar) (o : OptionSpec) (attached : Attached) (rest : List Word)
    (p : Parsed) : Except Stop (Parsed × List Word) :=
  let keep (value : Text) (rest : List Word) : Except Stop (Parsed × List Word) := do
    let bound ← g.bind o value
    pure ({ p with options := (o.key, bound) :: p.options }, rest)
  match o.kind, attached, rest with
  | .help, _, _ | .flag, _, _ => (g.takeFlag o attached p).map fun p => (p, rest)
  | _, .afterEquals value, _ | _, .joined value, _ => keep value rest
  | _, .nothing, .argument value :: rest => keep value rest
  | _, .nothing, _ => g.optionError o "expected one argument"

/-- One value with the double dashes around it, and the words behind them. -/
def takeArgument? (words : List Word) : Option (Given Text × List Word) :=
  let dashes := words.takeWhile (· == .doubleDash)
  match words.drop dashes.length with
  | .argument t :: rest =>
    let value := if t = "--".toList && dashes.isEmpty && rest.head? != some .doubleDash
      then Given.dropped else .value t
    some (value, rest.dropWhile (· == .doubleDash))
  | _ => none

/-- Whether a word is no option. -/
def isPlain : Word → Bool
  | .argument _ => true
  | .doubleDash => true
  | _ => false

/-- Takes the words apart; the fuel is their number. -/
def take (g : Grammar) : Nat → List Word → Parsed → Except Stop Parsed
  | 0, _, p => .ok p
  | _, [], p => .ok p
  | fuel + 1, .unknownOption w :: rest, p =>
    g.take fuel rest { p with leftOver := p.leftOver ++ [w] }
  | fuel + 1, .option _ o attached :: rest, p => do
    let (p, rest) ← g.takeOption o attached rest p
    g.take fuel rest p
  | fuel + 1, words, p =>
    match if p.arguments.length < g.arguments.length then takeArgument? words else none with
    | some (value, rest) => g.take fuel rest { p with arguments := p.arguments ++ [value] }
    | none =>
      let run := words.takeWhile isPlain
      g.take fuel (words.drop run.length) { p with leftOver := p.leftOver ++ run.map Word.text }

/-- The error when arguments are missing. -/
def checkArguments (g : Grammar) (p : Parsed) : Except Stop Parsed :=
  match g.arguments.drop p.arguments.length with
  | [] => .ok p
  | missing =>
    .error (.usage g.program ("the following arguments are required: " ++
      Text.str (Text.join ", ".toList missing)))

/-- Takes a command line apart. -/
def parse (g : Grammar) (args : List Text) : Except Stop Parsed := do
  let words ← g.words args
  let p ← g.take words.length words {}
  g.checkArguments p

/-! ### Commands -/

/-- Whether a word is an argument. -/
def isArgument : Word → Bool
  | .argument _ => true
  | _ => false

/-- Takes the options in front of a command apart, up to the first word that is no option's.  The
result has that word and all behind it, as they were given. -/
def takeFront (g : Grammar) : Nat → List Word → Parsed → Except Stop (Parsed × List Text)
  | 0, _, p => .ok (p, [])
  | _, [], p => .ok (p, [])
  | fuel + 1, .unknownOption w :: rest, p =>
    g.takeFront fuel rest { p with leftOver := p.leftOver ++ [w] }
  | fuel + 1, .option _ o attached :: rest, p => do
    let (p, rest) ← g.takeOption o attached rest p
    g.takeFront fuel rest p
  | _, words, p =>
    let texts := words.map Word.text
    if words.any isArgument then .ok (p, texts)
    else .ok ({ p with leftOver := p.leftOver ++ texts }, [])

/-- Takes a command line with a command apart: the options in front of it, and the words from it
on. -/
def parseFront (g : Grammar) (args : List Text) : Except Stop (Parsed × List Text) := do
  let words ← g.words args
  g.takeFront words.length words {}

end Grammar

end SwatchIndex.CommandLine
