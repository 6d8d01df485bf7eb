import CypherFragments.CommandLine.Run

/-!
# The program

Reads the environment and the files that the command line names, and prints what
`CommandLine.run` says.
-/

set_option autoImplicit false

namespace CypherFragments.Main

/-- The content of a file, with its path, if it can be read. -/
def readFile? (path : String) : IO (Option (String × ByteArray)) := do
  try
    return some (path, ← IO.FS.readBinFile path)
  catch _ => return none

/-- A setting's environment variable with its value, if it is set. -/
def readVariable? (s : Setting) : IO (Option (String × ByteArray)) := do
  return (← IO.getEnv s.environmentName).map fun v => (s.environmentName, v.toUTF8)

end CypherFragments.Main

open CypherFragments

def main (args : List String) : IO UInt32 := do
  let paths := match CommandLine.read args with
    | .ok i => i.paths
    | .error _ => []
  let vars ← Setting.all.filterMapM Main.readVariable?
  let files ← paths.filterMapM Main.readFile?
  let outcome := CommandLine.run ⟨(List.lookup · vars), (List.lookup · files)⟩ args
  IO.print outcome.stdout
  IO.eprint outcome.stderr
  return outcome.exitCode
