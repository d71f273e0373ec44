import PidOne.Errno
import PidOne.ExitStatus

/-!
# Phases and failures

The three phases of a run, and the causes for which one fails or a run is refused.
-/

namespace PidOne

inductive Phase
  | preStart
  | main
  | postStop
  deriving DecidableEq, Repr

def Phase.display : Phase → String
  | .preStart => "Pre-start"
  | .main => "Main"
  | .postStop => "Post-stop"

inductive Cause
  | errno (number : Errno)
  | other (text : String)
  deriving DecidableEq, Repr

def Cause.message : Cause → String
  | .errno number => s!"{number.message} (os error {number})"
  | .other text => text

/-- Strings handed to the kernel end at their first NUL, so none may hold one. -/
def Cause.nulByte : Cause := .other "nul byte found in provided data"

inductive Failure
  | missingMainCommand
  | emptyCommand
  | spawnFailed (program : String) (cause : Cause)
  | commandFailed (phase : Phase) (status : ExitStatus)
  | exitStatusLost (pid : Pid)
  | io (cause : Cause)
  | system (number : Errno)
  deriving DecidableEq, Repr

namespace Failure

def message : Failure → String
  | .missingMainCommand => "No main command defined"
  | .emptyCommand => "Empty command line"
  | .spawnFailed program cause => s!"Failed to spawn {program}: {cause.message}"
  | .commandFailed phase status => s!"{phase.display} command failed: {status.display}"
  | .exitStatusLost pid => s!"Exit status of PID {pid} was never collected"
  | .io cause => s!"IO error: {cause.message}"
  | .system number => s!"System error: {number.described}"

def source? : Failure → Option String
  | .spawnFailed _ cause => some cause.message
  | .io cause => some cause.message
  | .system number => some number.described
  | _ => none

end Failure

end PidOne
