import PidOne.CommandLine.Arguments
import PidOne.CommandLine.Filter
import PidOne.CommandLine.Program
import PidOne.Machine.Tasks

/-!
# The command line

A parser and filters for the program, and its run on a machine. A flag wins over its environment
variable.
-/

namespace PidOne.CommandLine

def Valued.ofPhase : Phase → Valued
  | .preStart => .pre
  | .main => .main
  | .postStop => .post

/-- The line given for a phase. A blank one that is given hides the environment's. -/
def effective (a : Arguments) (environment : Environment) (phase : Phase) : String :=
  match a.value? (.ofPhase phase) with
  | some value => value
  | none => (environment.lookup (variableName phase)).getD ""

def explanationColumn : Nat := 22

def indented (text : String) : String :=
  ("\n" ++ "".pushn ' ' explanationColumn).intercalate (text.splitOn "\n")

/-- The help for an option with a value, which shows the one it has in the environment. -/
def optionHelp (environment : Environment) (phase : Phase) (gap about : String) : String :=
  let option := Valued.ofPhase phase
  let name := variableName phase
  let value := indented ((environment.lookup name).getD "")
  let literal := styled option.name ++ " " ++ styled option.placeholder
  s!"      {literal}{gap}{about} [env: {name}={value}] [default: \"\"]\n"

def styledHelp (environment : Environment) : String :=
  "Minimal PID 1 - runs pre-start, main and post-stop commands, reaps zombies, " ++
    "forwards signals\n\n" ++
  "Usage: agent-init [OPTIONS]\n\nOptions:\n" ++
  optionHelp environment .preStart "     " "Pre-start command" ++
  optionHelp environment .main "   " "Main command" ++
  optionHelp environment .postStop "   " "Post-stop command" ++
  s!"      {styled Flag.version.name}       Display agent-init version\n" ++
  s!"      {styled Flag.noSubreaper.name}  " ++
    "Don't register as child subreaper when not running as PID 1\n" ++
  "  " ++ styled "-h" ++ ", " ++ styled helpName ++ "          Print help\n"

def help (environment : Environment) : String := plain (styledHelp environment)

def parser : Parser := fun arguments environment =>
  match read arguments with
  | .error (.usage error) => .error (.usage (error.message ++ "\n"))
  | .error .help => .error (.help (help environment))
  | .ok a => .ok {
      line := effective a environment
      version := a.has .version
      noSubreaper := a.has .noSubreaper }

def filters : Filters where
  read? text := (directives? text).map fun directives => upTo (detailOf directives)
  lenient text := upTo (detailOf ((parts text).filterMap directive?))

/-- The run on a machine. What the commands write comes after what the program writes, which does
not write at all when it comes to commands. -/
def run (arguments : List String) (environment : Environment) (m : Machine) : Report Machine :=
  let r := runFor parser filters Supervisor.roundLimit arguments environment m
  { r with
    stdout := r.stdout ++ r.machine.shownOutput
    stderr := r.stderr ++ r.machine.shownErrors }

end PidOne.CommandLine
