import Rulebook.CommandLine

/-!
# The program

The outer layer: it reads the file that the command names, and writes what the
command line answers.
-/

namespace Rulebook.Main

/-- The fault that a system error is. The number of an error may come negated. -/
def faultOfError : IO.Error → ReadFault
  | .noFileOrDirectory .. => .notFound
  | .inappropriateType file code details =>
    if code = 20 ∨ code = 0 - 20 then .notDirectory
    else if code = 21 ∨ code = 0 - 21 then .isDirectory
    else .other (toString (IO.Error.inappropriateType file code details))
  | error => .other (toString error)

/-- The bytes of a file, or why they cannot be read. -/
def readFile (path : String) : IO (Except ReadFault ByteArray) := do
  try
    return .ok (← IO.FS.readBinFile path)
  catch error =>
    return .error (faultOfError error)

/-- The path that an invocation reads. -/
def pathOf? : CommandLine.Invocation → Option String
  | .compile path => some path
  | .calculate path _ => some path
  | .help => none

end Rulebook.Main

/-- Runs the command that the arguments make. -/
def main (arguments : List String) : IO UInt32 := do
  let path := (Rulebook.CommandLine.parse arguments).bind Rulebook.Main.pathOf?
  let content ← match path with
    | some path => Rulebook.Main.readFile path
    | none => pure (.error .notFound)
  let response :=
    Rulebook.CommandLine.run Rulebook.Settings.standard (fun _ => content) arguments
  IO.print response.output
  IO.eprint response.diagnostic
  return response.exitCode
