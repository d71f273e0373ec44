import PidOne.CommandLine
import PidOne.Machine.Initial

/-!
# The program

Reads its arguments and the variables that matter to it, makes the run on a fresh machine and
writes what the run wrote, the log on standard error.
-/

namespace PidOne.Main

def variableNames : List String :=
  ["AGENT_INIT_PRE", "AGENT_INIT_MAIN", "AGENT_INIT_POST", "RUST_LOG"]

def environment : IO CommandLine.Environment := do
  let values ← variableNames.mapM fun name => do
    let value ← IO.getEnv name
    pure (value.map (name, ·))
  pure (values.filterMap id)

end PidOne.Main

def main (arguments : List String) : IO UInt32 := do
  let environment ← PidOne.Main.environment
  let report := PidOne.CommandLine.run arguments environment
    (PidOne.Machine.nested [] environment)
  for line in report.log do
    IO.eprintln line.render
  IO.eprint report.stderr
  IO.print report.stdout
  pure (UInt32.ofNat (report.exit.getD 1))
