import ComposeLint.CommandLine.Run

/-!
# The program

Reads the environment and the files that the options name, and prints the outcome.
-/

namespace ComposeLint.CommandLine

/-- The variables of the environment that stand in for options. -/
def readEnvironment : IO (String → Option String) := do
  let pairs ← Flag.all.mapM fun flag =>
    return (flag.environment, ← IO.getEnv flag.environment)
  return fun name => (pairs.find? (·.1 = name)).bind (·.2)

def readFile? (path : String) : IO (Option String) := do
  try return some (← IO.FS.readFile path) catch _ => return none

def readFiles (paths : List String) : IO Files := do
  let pairs ← paths.mapM fun path => return (path, ← readFile? path)
  return fun path => (pairs.find? (·.1 = path)).bind (·.2)

def Invocation.files : Option Invocation → List String
  | some (check options) => options.files
  | _ => []

end ComposeLint.CommandLine

open ComposeLint.CommandLine

def main (arguments : List String) : IO UInt32 := do
  let invocation := Invocation.ofArguments? arguments (← readEnvironment)
  let outcome := Invocation.run (← readFiles (Invocation.files invocation)) invocation
  outcome.output.forM IO.println
  match outcome.failure with
  | some e => IO.eprintln ("Error: " ++ e.message)
  | none => if outcome.exitCode = 2 then IO.eprintln "error: the arguments cannot be used"
  return outcome.exitCode
