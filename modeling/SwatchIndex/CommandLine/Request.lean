/-
Requests: what a command line asks for.

There are three commands.  `index` lists the definitions below a directory, `usages` lists the
usages in a file, and `complete` lists the items for a name being typed.
-/
import SwatchIndex.CommandLine.Arguments

namespace SwatchIndex.CommandLine

/-- A command with its arguments. -/
inductive Command where
  | index (root : Given Text)
  | usages (root file : Given Text)
  | complete (root text : Given Text) (rank : Bool) (limit : Option (Given Int))
deriving DecidableEq, Repr

/-- What a command line asks for. -/
structure Request where
  config : Option Text
  debug : Bool
  trace : Option Text
  resolveDepth : Option (Given Int)
  maxFiles : Option (Given Int)
  command : Command
deriving DecidableEq, Repr

/-- The name of the program. -/
def program : String := "css-var-index"

/-- How the program is called. -/
def synopsis : String :=
  "usage: " ++ program ++ " [-h] [--config CONFIG] [--debug] [--trace TOPICS] " ++
    "[--resolve-depth N] [--max-files N] COMMAND\n\n" ++
    "commands:\n" ++
    "  index ROOT                                    List every indexed variable\n" ++
    "  usages ROOT FILE                              List colored var() usages in a file\n" ++
    "  complete ROOT TEXT [--rank] [--limit LIMIT]   " ++
    "Completion candidates for text before the cursor\n"

/-- The option that asks for help. -/
def helpOption : OptionSpec := ⟨["-h".toList, "--help".toList], .help⟩

/-- An option with one name. -/
def option (name : String) (kind : OptionKind) : OptionSpec := ⟨[name.toList], kind⟩

/-- The options in front of a command. -/
def front : Grammar where
  program := program.toList
  options := [helpOption, option "--config" .word, option "--debug" .flag, option "--trace" .word,
    option "--resolve-depth" .integer, option "--max-files" .integer]
  arguments := ["command".toList]

/-- The grammar of a command. -/
def commandGrammar (name : String) (options : List OptionSpec) (arguments : List String) :
    Grammar where
  program := (program ++ " " ++ name).toList
  options := helpOption :: options
  arguments := arguments.map String.toList

/-- The commands by their names. -/
def commands : List (Text × Grammar) :=
  [("index".toList, commandGrammar "index" [] ["root"]),
   ("usages".toList, commandGrammar "usages" [] ["root", "file"]),
   ("complete".toList,
     commandGrammar "complete" [option "--rank" .flag, option "--limit" .integer]
       ["root", "text"])]

/-- The command that has been taken apart. -/
def commandOf (name : Text) (p : Parsed) : Option Command :=
  match Text.str name, p.arguments with
  | "index", [root] => some (.index root)
  | "usages", [root, file] => some (.usages root file)
  | "complete", [root, text] =>
    some (.complete root text (p.flag "--rank") (p.integer? "--limit"))
  | _, _ => none

/-- The error at a word that is no command. -/
def invalidCommand (w : Text) : Stop :=
  let choices := commands.map fun (name, _) => Text.str (Text.quoted name)
  .usage front.program ("argument command: invalid choice: " ++ Text.str (Text.quoted w) ++
    " (choose from " ++ ", ".intercalate choices ++ ")")

/-- The error at words that nothing asked for. -/
def checkLeftOver (leftOver : List Text) : Except Stop Unit :=
  if leftOver.isEmpty then .ok ()
  else
    .error (.usage front.program
      ("unrecognized arguments: " ++ Text.str (Text.join [' '] leftOver)))

/-- Reads a command line. -/
def parse (args : List Text) : Except Stop Request := do
  let (p, words) ← front.parseFront args
  match words with
  | [] => do
    let _ ← front.checkArguments p
    throw (invalidCommand [])
  | name :: rest =>
    match commands.lookup name with
    | none => throw (invalidCommand name)
    | some g => do
      let q ← g.parse rest
      checkLeftOver (p.leftOver ++ q.leftOver)
      match commandOf name q with
      | none => throw (invalidCommand name)
      | some command =>
        pure
          { config := p.word? "--config", debug := p.flag "--debug", trace := p.word? "--trace"
            resolveDepth := p.integer? "--resolve-depth", maxFiles := p.integer? "--max-files"
            command }

end SwatchIndex.CommandLine
