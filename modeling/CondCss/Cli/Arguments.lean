import CondCss.Cli.Suggestion
import CondCss.Text.Quoted

/-!
# Command line arguments

A command takes flags and operands. Flags have long names after two dashes, and some a letter after
one; letters may be put together. After two dashes alone everything is an operand.
-/

namespace CondCss
namespace Cli

/-- The flags of all commands. -/
inductive Flag where
  | help
  | version
  | verbose
  | minify
  | stats
  deriving DecidableEq, Repr

/-- What is wrong with a file that was named. -/
inductive FileProblem where
  | missing
  | directory
  deriving DecidableEq, Repr

/-- Why a command line cannot be carried out. -/
inductive UsageError where
  /-- An option is not known; some that are known resemble it. -/
  | noSuchOption (name : Text) (similar : List Text := [])
  | takesNoValue (name : Text)
  /-- A command is not known; some that are known resemble it. -/
  | noSuchCommand (name : Text) (similar : List Text := [])
  | missingCommand
  | missingArgument (operand : String)
  | extraArguments (arguments : List Text)
  | invalidFile (operand : String) (file : Text) (problem : FileProblem)
  deriving DecidableEq, Repr

/-- The question whether one of several words was meant. -/
def suggestion (similar : List Text) : String :=
  let words := String.intercalate ", " (similar.map Text.quotedString)
  if similar.isEmpty then ""
  else if similar.length == 1 then " Did you mean " ++ words ++ "?"
  else " (Did you mean one of: " ++ words ++ "?)"

/-- What is said of an error. -/
def UsageError.message : UsageError → String
  | noSuchOption name similar =>
    "No such option " ++ Text.quotedString name ++ "." ++ suggestion similar
  | takesNoValue name => "Option " ++ Text.quotedString name ++ " does not take a value."
  | noSuchCommand name similar =>
    "No such command " ++ Text.quotedString name ++ "." ++ suggestion similar
  | missingCommand => "Missing command."
  | missingArgument operand => "Missing argument '" ++ operand ++ "'."
  | extraArguments arguments =>
    (if arguments.length == 1 then "Got unexpected extra argument ("
      else "Got unexpected extra arguments (") ++
    String.ofList (Text.joinWith [' '] arguments) ++ ")"
  | invalidFile operand file problem =>
    "Invalid value for '" ++ operand ++ "': File " ++ Text.quotedString file ++
    (match problem with
      | .missing => " does not exist."
      | .directory => " is a directory.")

/-- The flags that a command knows. -/
structure Grammar where
  /-- Flags by their long names, with the dashes, in the order in which they are suggested. -/
  long : List (Text × Flag)
  /-- Flags by their letters. -/
  short : List (Char × Flag) := []
  /-- Whether flags may follow operands. -/
  interspersed : Bool := true

/-- A command line taken apart. -/
structure Arguments where
  /-- The flags, in order. -/
  flags : List Flag := []
  /-- Everything else, in order. -/
  operands : List Text := []
  deriving DecidableEq, Repr

/-- Reads one argument that starts with a dash. -/
def Grammar.readFlags (g : Grammar) (argument : Text) : Except UsageError (List Flag) :=
  let (name, value) :=
    match Text.cutAt? '=' argument with
    | some (name, value) => (name, some value)
    | none => (argument, none)
  match g.long.lookup name with
  | some flag => if value.isSome then .error (.takesNoValue name) else .ok [flag]
  | none =>
    if ['-', '-'].isPrefixOf argument then
      .error (.noSuchOption name (Suggestion.among (g.long.map (·.1)) name))
    else (argument.drop 1).mapM fun letter =>
      match g.short.lookup letter with
      | some flag => .ok flag
      | none => .error (.noSuchOption ['-', letter])

/-- Takes a command line apart. -/
def Grammar.read (g : Grammar) : List Text → Except UsageError Arguments
  | [] => .ok {}
  | argument :: rest =>
    if argument == ['-', '-'] then .ok { operands := rest }
    else if argument.head? == some '-' && 1 < argument.length then do
      let flags ← g.readFlags argument
      let later ← g.read rest
      return { later with flags := flags ++ later.flags }
    else if g.interspersed then do
      let later ← g.read rest
      return { later with operands := argument :: later.operands }
    else .ok { operands := argument :: rest }

end Cli
end CondCss
