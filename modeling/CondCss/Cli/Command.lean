import CondCss.Cli.Arguments
import CondCss.Cli.Path
import CondCss.Cli.Terminal
import CondCss.Expand.Sheet

/-!
# Commands

`transform` expands a style sheet and prints or writes the result; `check` prints the findings
about one. Flags may stand before or after the operands of a command.
-/

namespace CondCss
namespace Cli

/-- Why a run breaks off without a word. -/
inductive Crash where
  /-- A file is not UTF-8. -/
  | undecodable
  /-- The name of a file has a character that no name can have. -/
  | unnameable
  deriving DecidableEq, Repr

/-- What a run prints and how it ends. -/
structure Output where
  /-- The text for standard output. -/
  stdout : String := ""
  /-- The text for standard error. -/
  stderr : String := ""
  /-- The exit code. -/
  exitCode : Nat := 0
  /-- Why the run broke off, if it did. -/
  crash : Option Crash := none
  deriving DecidableEq, Repr

/-- A run that breaks off. -/
def Crash.output (c : Crash) : Output :=
  { exitCode := 1, crash := some c }

/-- Ends lines and puts them together. -/
def unlines (lines : List String) : String :=
  String.join (lines.map (· ++ "\n"))

/-- The lines that a command prints, without what a terminal would take for commands. -/
def printed (lines : List String) : String :=
  String.ofList (Terminal.lineFeeds (Terminal.plain (unlines lines).toList))

/-- The commands, the first of which stands for the program itself. -/
inductive Name where
  | main
  | transform
  | check
  deriving DecidableEq, Repr

namespace Name

/-- A command with the names before it. -/
def path : Name → String
  | main => "cli"
  | transform => "cli transform"
  | check => "cli check"

/-- The commands by their names, in the order in which they are suggested. -/
def all : List (Text × Name) :=
  [("check".toList, check), ("transform".toList, transform)]

/-- The command of that name. -/
def ofText? (name : Text) : Option Name :=
  all.lookup name

/-- How a command is used. -/
def usage : Name → String
  | main => "Usage: cli [OPTIONS] COMMAND [ARGS]..."
  | transform => "Usage: cli transform [OPTIONS] INPUT_FILE [OUTPUT_FILE]"
  | check => "Usage: cli check [OPTIONS] CSSFILE"

/-- What a command does and which flags it has. -/
def help : Name → List String
  | main =>
    ["",
     "  Rewrite CSS if() functions into native @media/@supports rules.",
     "",
     "Options:",
     "  --version      Show the version and exit.",
     "  -v, --verbose  Log transform details to stderr.",
     "  --help         Show this message and exit.",
     "",
     "Commands:",
     "  check      Check the if() functions in a stylesheet.",
     "  transform  Transform INPUT_FILE, writing to OUTPUT_FILE or stdout."]
  | transform =>
    ["",
     "  Transform INPUT_FILE, writing to OUTPUT_FILE or stdout.",
     "",
     "  Exits with code 1 if the input cannot be read or the output written.",
     "",
     "Options:",
     "  --minify  Minify the native CSS.",
     "  --stats   Show transformation statistics.",
     "  --help    Show this message and exit."]
  | check =>
    ["",
     "  Check the if() functions in a stylesheet.",
     "",
     "  Prints diagnostics (errors, warnings, info) and exits with code 0 if no errors",
     "  are found, or code 1 if there are errors.",
     "",
     "Options:",
     "  --help  Show this message and exit."]

/-- The help text of a command. -/
def helpText (n : Name) : String :=
  printed (n.usage :: n.help)

/-- The flags of a command. -/
def grammar : Name → Grammar
  | main =>
    { long := [("--help".toList, .help), ("--verbose".toList, .verbose),
        ("--version".toList, .version)]
      short := [('v', .verbose)]
      interspersed := false }
  | transform =>
    { long := [("--help".toList, .help), ("--minify".toList, .minify), ("--stats".toList, .stats)] }
  | check => { long := [("--help".toList, .help)] }

/-- What is printed before an error, to remind of how a command is used. A flag that was given a
    value needs no reminder. -/
def reminder (n : Name) : UsageError → List String
  | .takesNoValue _ => []
  | _ => [n.usage, "Try '" ++ n.path ++ " --help' for help.", ""]

/-- What is printed when a command is not used as it should be. -/
def refuse (n : Name) (e : UsageError) : Output where
  stderr := printed (n.reminder e ++ ["Error: " ++ e.message])
  exitCode := 2

end Name

/-- The version of the program. -/
def versionText : String := "cssif, version 0.1.0\n"

/-! ### Style sheets -/

/-- Line ends of all systems become line feeds. -/
def universalNewlines : Text → Text
  | [] => []
  | '\r' :: '\n' :: rest => '\n' :: universalNewlines rest
  | c :: rest => (if c == '\r' then '\n' else c) :: universalNewlines rest

/-- The text of a file, if it is UTF-8. -/
def decodeFile (bytes : ByteArray) : Option Text :=
  (String.fromUTF8? bytes).map fun s => universalNewlines s.toList

/-- What expanding logs, when the user wants to see it. -/
def logText (verbose : Bool) (source : Text) (r : Expand.Report) : String :=
  if verbose then unlines ((Expand.logEntries source r).map (·.render)) else ""

/-- The comment between the native and the deferred stream. -/
def deferredHeader : String := "/* Runtime-processed rules (require polyfill) */"

/-- Both streams as one style sheet. -/
def combined (r : Expand.Report) : String :=
  String.ofList r.native ++
    if r.hasDeferred && !r.deferred.isEmpty then
      "\n\n" ++ deferredHeader ++ "\n" ++ String.ofList r.deferred
    else ""

/-- What is counted while a style sheet is expanded, and the findings. -/
def statistics (r : Expand.Report) : String :=
  printed (["Transformation statistics:",
    s!"  Total rules processed: {r.total}",
    s!"  Rules with if() transformed: {r.changed}",
    "  Has runtime rules: " ++ (if r.hasDeferred then "yes" else "no")] ++
    r.diagnostics.map fun d => "  " ++ d.render)

/-- The warning that the result needs evaluation. -/
def deferredWarning (r : Expand.Report) : String :=
  if r.hasDeferred then
    printed ["Warning: some if() functions still require runtime processing."]
  else ""

/-- What `check` prints about a style sheet. It fails if there are errors. -/
def checkSheet (verbose : Bool) (name source : Text) : Output :=
  let r := Expand.sheet false source
  let stderr := logText verbose source r
  if r.diagnostics.isEmpty then
    { stdout := printed ["OK: " ++ String.ofList name ++
        s!" is fully native ({r.changed} rule(s) with if())"]
      stderr }
  else
    let errors := r.diagnostics.countP (·.isError)
    let warnings := r.diagnostics.countP (·.isWarning)
    let infos := r.diagnostics.countP (·.isInfo)
    { stdout := printed (r.diagnostics.map (·.render) ++
        ["", s!"Summary: {errors} error(s), {warnings} warning(s), {infos} info"])
      stderr
      exitCode := if errors == 0 then 0 else 1 }

/-! ### Runs -/

section Runs

variable {m : Type → Type} [Monad m]

/-- Checks a file operand of a command: it must have a name that a file can have, it must not be a
    directory, and perhaps it must be there. Gives the output of a run that ends here. -/
def checkFile (fs : FileSystem m) (n : Name) (operand : String) (mustExist : Bool) (file : Text) :
    m (Option Output) := do
  if file.contains '\x00' then return some Crash.unnameable.output
  let refusal (problem : FileProblem) := n.refuse (.invalidFile operand file problem)
  match ← fs.kind? file with
  | some .directory => return some (refusal .directory)
  | some .file => return none
  | none => return if mustExist then some (refusal .missing) else none

/-- The output of a run that ends because a command has too many operands. -/
def refuseExtra? (n : Name) (operands : List Text) : Option Output :=
  if operands.isEmpty then none else some (n.refuse (.extraArguments operands))

/-- The `check` command. -/
def runCheck (fs : FileSystem m) (verbose : Bool) (operands : List Text) : m Output := do
  match operands with
  | [] => return Name.check.refuse (.missingArgument "CSSFILE")
  | file :: rest =>
    match (← checkFile fs .check "CSSFILE" true file).orElse fun _ =>
      refuseExtra? .check rest with
    | some out => return out
    | none =>
      match (← fs.read file).toOption.bind decodeFile with
      | none => return Crash.undecodable.output
      | some source => return checkSheet verbose (Path.lastComponent file) source

/-- Writes the expanded style sheet, or prints it if there is no file to write to. -/
def writeResult (fs : FileSystem m) (output : Option Text) (r : Expand.Report) : m Output := do
  match output with
  | none | some [] => return { stdout := printed [combined r], stderr := deferredWarning r }
  | some file =>
    match ← fs.write file (combined r) with
    | .error e =>
      return { stderr := printed ["Error: cannot write " ++ String.ofList file ++ ": " ++
                 e.message file]
               exitCode := 1 }
    | .ok () =>
      return { stderr := printed ["Transformed CSS written to: " ++ String.ofList file] ++
                 deferredWarning r }

/-- Expands a style sheet from a file. -/
def transformFile (fs : FileSystem m) (verbose : Bool) (flags : List Flag) (input : Text)
    (output : Option Text) : m Output := do
  match ← fs.read input with
  | .error e =>
    return { stderr := printed ["Error: cannot read " ++ String.ofList input ++ ": " ++
               e.message input]
             exitCode := 1 }
  | .ok bytes =>
    match decodeFile bytes with
    | none => return Crash.undecodable.output
    | some source =>
      let r := Expand.sheet (flags.contains .minify) source
      let out ← writeResult fs output r
      let stats := if flags.contains .stats then statistics r else ""
      return { out with stderr := logText verbose source r ++ stats ++ out.stderr }

/-- The `transform` command. -/
def runTransform (fs : FileSystem m) (verbose : Bool) (flags : List Flag) (operands : List Text) :
    m Output := do
  match operands with
  | [] => return Name.transform.refuse (.missingArgument "INPUT_FILE")
  | input :: rest =>
    let output := rest.head?
    let badInput ← checkFile fs .transform "INPUT_FILE" false input
    let badOutput ← match output with
      | some file => checkFile fs .transform "[OUTPUT_FILE]" false file
      | none => pure none
    match (badInput.orElse fun _ => badOutput).orElse fun _ =>
      refuseExtra? .transform (rest.drop 1) with
    | some out => return out
    | none => transformFile fs verbose flags input output

/-- A command with its own arguments. -/
def runCommand (fs : FileSystem m) (verbose : Bool) (n : Name) (arguments : List Text) :
    m Output := do
  match n.grammar.read arguments with
  | .error e => return n.refuse e
  | .ok a =>
    if a.flags.contains .help then return { stdout := n.helpText }
    else match n with
      | .check => runCheck fs verbose a.operands
      | .transform => runTransform fs verbose a.flags a.operands
      | .main => return n.refuse .missingCommand

/-- What the flags of the program itself ask for, if they end the run. The first one counts. -/
def eager? (flags : List Flag) : Option Output :=
  flags.findSome? fun
    | .help => some { stdout := Name.main.helpText }
    | .version => some { stdout := versionText }
    | _ => none

/-- Whether a word looks like a flag: it starts with a character that is no letter or digit. -/
def looksLikeFlag (word : Text) : Bool :=
  word.head?.any fun c => c == '_' || !Text.isWordChar c

/-- What is said of a command that does not exist. A word that looks like a flag is first read as
    one. -/
def unknownCommand (arguments : List Text) (word : Text) : Output :=
  let n := Name.main
  let unknown := n.refuse (.noSuchCommand word (Suggestion.among (Name.all.map (·.1)) word))
  if looksLikeFlag word then
    match n.grammar.read arguments with
    | .error e => n.refuse e
    | .ok a => (eager? a.flags).getD unknown
  else unknown

/-- A run of the program. -/
def run (fs : FileSystem m) (arguments : List Text) : m Output := do
  let n := Name.main
  if arguments.isEmpty then return { stderr := n.helpText, exitCode := 2 }
  match n.grammar.read arguments with
  | .error e => return n.refuse e
  | .ok a =>
    match eager? a.flags, a.operands with
    | some output, _ => return output
    | none, [] => return n.refuse .missingCommand
    | none, word :: rest =>
      match Name.ofText? word with
      | none => return unknownCommand a.operands word
      | some command => runCommand fs (a.flags.contains .verbose) command rest

end Runs
end Cli
end CondCss
