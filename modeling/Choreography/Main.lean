import Choreography.Tool.DirectiveCheck

/-!
# The program

`motion` compiles an attribute or replays a page.  With `xtask` as the first word
it checks the directives of one page.
-/

namespace Choreography

/-- What stands at a path on disk.  What cannot be read counts as a file without
text. -/
def foundOnDisk (path : String) : IO Found := do
  try
    let text ← IO.FS.readFile path
    return .file (some text)
  catch error =>
    match error with
    | .noFileOrDirectory .. => return .nothing
    | _ => return .file none

/-- What stands at each of a list of paths. -/
def readAll (paths : List String) : IO (String → Found) := do
  let entries ← paths.mapM fun path => do
    let found ← foundOnDisk path
    return (path, found)
  return fun path => (entries.lookup path).getD .nothing

/-- The outcome of the words of a command line, with files read from disk. -/
def outcomeOf (arguments : List String) : IO Outcome :=
  match arguments with
  | "xtask" :: arguments => do
    let find ← readAll (DirectiveCheck.path? arguments).toList
    return DirectiveCheck.run find arguments
  | arguments => do
    let find ← readAll ((Invocation.read? arguments).map Invocation.paths |>.getD [])
    return Outcome.ofArguments find arguments

end Choreography

/-- A command line is performed: its texts are printed, and its exit code is the
program's. -/
def main (arguments : List String) : IO UInt32 := do
  let outcome ← Choreography.outcomeOf arguments
  IO.print outcome.output
  IO.eprint outcome.errors
  return outcome.exitCode.toUInt32
