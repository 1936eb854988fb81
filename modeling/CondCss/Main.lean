import CondCss.Cli.Command

/-!
# The program

Carries out a command line on the files of the machine.
-/

namespace CondCss
namespace Cli

/-- The error of the operating system behind an error of a file operation. -/
def osError : IO.Error → OsError
  | .noFileOrDirectory .. => .notFound
  | .inappropriateType _ 20 _ => .notDirectory
  | .inappropriateType _ 21 _ => .isDirectory
  | .inappropriateType _ code details => .other code.toNat details
  | .permissionDenied _ code details => .other code.toNat details
  | .resourceExhausted _ code details => .other code.toNat details
  | .invalidArgument _ code details => .other code.toNat details
  | .otherError code details => .other code.toNat details
  | e => .other 5 (toString e)

/-- The result of a file operation. -/
def attempt {α : Type} (action : IO α) : IO (Except OsError α) := do
  try
    return .ok (← action)
  catch e => return .error (osError e)

/-- The files of the machine. -/
def machineFiles : FileSystem IO where
  kind? name := do
    match ← attempt (IO.FS.readBinFile (String.ofList name)) with
    | .ok _ => return some .file
    | .error .isDirectory => return some .directory
    | .error _ => return none
  read name := attempt (IO.FS.readBinFile (String.ofList (Path.normalize name)))
  write name text := attempt (IO.FS.writeFile (String.ofList (Path.normalize name)) text)

end Cli
end CondCss

/-- Runs the program. -/
def main (arguments : List String) : IO UInt32 := do
  let output ← CondCss.Cli.run CondCss.Cli.machineFiles (arguments.map String.toList)
  IO.print output.stdout
  IO.eprint output.stderr
  return UInt32.ofNat output.exitCode
