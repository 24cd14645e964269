import TopDown.CommandLine.Program

namespace TopDown.CommandLine

def Command.paths : Command → List String
  | .parse grammar input _ _ _ _ _ => grammar :: input.toList
  | .check grammar => [grammar]
  | .tokenize input _ => [input]
  | .demo _ _ => []

def readPath (path : String) : IO (Except String String) := do
  try
    return .ok (← IO.FS.readFile path)
  catch
    | .noFileOrDirectory _ _ _ => return .error "No such file or directory (os error 2)"
    | error => return .error (toString error)

/-- Tries again with twice the patience until the command ends. -/
partial def performToEnd (files : Files) (args : List String) (patience : Nat) : IO Outcome :=
  match perform files patience args with
  | some outcome => return outcome
  | none => performToEnd files args (2 * patience)

def outcomeOf (args : List String) : IO Outcome := do
  let paths := match readCommand args with
    | .ok command => command.paths
    | .error _ => []
  let texts ← paths.mapM fun path ↦ return (path, ← readPath path)
  let files : Files := fun path ↦ (texts.lookup path).getD (.error "not read")
  performToEnd files args 1000000

end TopDown.CommandLine

def main (args : List String) : IO UInt32 := do
  let outcome ← TopDown.CommandLine.outcomeOf args
  IO.print outcome.output
  for line in outcome.errorLines do
    IO.eprintln line
  return outcome.exitCode.toUInt32
