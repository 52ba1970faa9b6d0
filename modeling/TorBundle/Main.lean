import TorBundle.CommandLine

/-!
# Running the program

Prints what a run of the program amounts to. No agent can be reached from here.
-/

namespace TorBundle.CommandLine

def usage : String :=
  "usage: vorpal start --artifact NAME --artifact-context PATH --artifact-namespace NAME " ++
  "--artifact-system SYSTEM --port PORT [--agent ADDRESS] [--registry ADDRESS] " ++
  "[--artifact-unlock] [--artifact-variable VALUE]..."

end TorBundle.CommandLine

open TorBundle TorBundle.CommandLine in
def main (args : List String) : IO UInt32 := do
  let outcome := run args (← IO.getEnv "RUST_LOG") none
  outcome.log.forM IO.eprintln
  outcome.stdout.forM IO.println
  match outcome.ending with
  | .informed .version => IO.println "vorpal 0.1.0-rc.0"
  | .informed _ => IO.println usage
  | .misused cause =>
    IO.eprintln ("error: " ++ cause.message)
    IO.eprintln usage
  | .failed cause => IO.eprintln ("Error: " ++ cause.message)
  | .torn => IO.eprintln "the log filter cannot be cut into its parts"
  return outcome.ending.exitCode.toUInt32
