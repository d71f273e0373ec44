import PidOne.Command

/-!
# The log of a run

The lines of the levels that are let through as a rule. The one that says that the reaper has
started is left out: its task writes it whenever it comes to it, and it says nothing of a phase.
-/

namespace PidOne

inductive Level
  | error
  | warn
  | info
  | debug
  | trace
  deriving DecidableEq, Repr

namespace Level

def label : Level → String
  | .error => "ERROR"
  | .warn => "WARN"
  | .info => "INFO"
  | .debug => "DEBUG"
  | .trace => "TRACE"

/-- More detail has a greater number. -/
def detail : Level → Nat
  | .error => 1
  | .warn => 2
  | .info => 3
  | .debug => 4
  | .trace => 5

end Level

inductive Line
  | starting (version : String)
  | skipped (phase : Phase)
  | launched (phase : Phase) (command : Command)
  | spawned (phase : Phase)
  | exited (phase : Phase)
  | failed (phase : Phase) (failure : Failure)
  | reapingFailed (number : Errno)
  | reaperStopped
  | exiting (code : Nat)
  | invalidConfiguration (failure : Failure)
  deriving DecidableEq, Repr

namespace Line

def level : Line → Level
  | .failed .. | .reapingFailed _ | .invalidConfiguration _ => .error
  | _ => .info

def text : Line → String
  | .starting version => s!"agent-init starting version={version}"
  | .skipped phase => s!"No {phase.display.toLower} command defined, skip"
  | .launched phase command =>
    s!"{phase.display} command launched phase={phase.display} command={command.display}"
  | .spawned phase => s!"Spawned process phase={phase.display}"
  | .exited phase => s!"{phase.display} command exited phase={phase.display}"
  | .failed phase failure =>
    s!"{phase.display} command failed phase={phase.display} error={failure.message}"
  | .reapingFailed number => s!"Error reaping zombies error={number.described}"
  | .reaperStopped => "Zombie reaper stopped"
  | .exiting code => s!"agent-init exiting exit_code={code}"
  | .invalidConfiguration failure => s!"Invalid configuration, exiting: {failure.message}"

def render (l : Line) : String := s!"{l.level.label} {l.text}"

end Line

end PidOne
