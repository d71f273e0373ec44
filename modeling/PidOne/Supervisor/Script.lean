import PidOne.Config
import PidOne.Log

/-!
# The supervisor's script

What a supervisor does, one operation after another, as data: the answer to each command decides
how the script goes on. `Script.eval` reads it phase by phase, with nothing going on beside it.
That the kernel receives the signals, has orphans adopted and reports the end of children is taken
for granted: what a run would do without is left out.
-/

namespace PidOne

inductive Script
  | done (result : Result)
  | log (line : Line) (rest : Script)
  | adoptOrphans (rest : Script)
  | receiveSignals (rest : Script)
  | startReaper (interval : Nat) (rest : Script)
  | run (phase : Phase) (command : Command) (rest : Except Failure ExitStatus → Script)
  | stopReaper (rest : Script)

namespace Script

/-- Run the command of a phase, log how it ended and go on with its outcome. -/
def phase (phase : Phase) (command : Command) (rest : Outcome → Script) : Script :=
  .log (.launched phase command) <| .run phase command fun
    | .ok status =>
      if status.success then .log (.exited phase) (rest status.outcome)
      else .log (.failed phase (.commandFailed phase status)) (rest status.outcome)
    | .error failure => .log (.failed phase failure) (rest .notStarted)

/-- A phase that is not defined is skipped. -/
def optional (p : Phase) (command : Option Command) (rest : Option Outcome → Script) : Script :=
  match command with
  | none => .log (.skipped p) (rest none)
  | some command => phase p command fun outcome => rest (some outcome)

/-- A failed pre-start ends the phases; post-stop runs whatever became of main. -/
def phases (config : Config) (rest : Result → Script) : Script :=
  optional .preStart config.preStart fun preStart =>
    if preStart.any (!·.success) then rest { preStart } else
    phase .main config.main fun main =>
    optional .postStop config.postStop fun postStop =>
    rest { preStart, main := some main, postStop }

/-- A process that runs as the first one adopts orphans anyway. -/
def ofConfig (config : Config) (version : String) (self : Pid) : Script :=
  .log (.starting version) <|
  (if config.subreaper && self != 1 then .adoptOrphans else id) <|
  .receiveSignals <| .startReaper config.reapInterval <|
  phases config fun result =>
  .stopReaper <| .log .reaperStopped <| .log (.exiting result.exitCode) <| .done result

inductive Report
  | refused (cause : Cause)
  | ended (status : ExitStatus)
  | lost (pid : Pid)

def Report.answer (c : Command) : Report → Except Failure ExitStatus
  | .refused cause => .error (.spawnFailed c.program cause)
  | .ended status => .ok status
  | .lost pid => .error (.exitStatusLost pid)

def Report.spawned : Report → Bool
  | .refused _ => false
  | _ => true

/-- What a script comes to: the commands it ran, what it logged and its result. -/
structure Reading where
  attempts : List (Phase × Command) := []
  log : List Line := []
  result : Result
  deriving DecidableEq, Repr

/-- The reading of a script in which each command is run to its end before anything else is. -/
def eval (report : Phase → Command → Report) : Script → Reading
  | .done result => { result }
  | .log line rest =>
    let after := rest.eval report
    { after with log := line :: after.log }
  | .adoptOrphans rest => rest.eval report
  | .receiveSignals rest => rest.eval report
  | .startReaper _ rest => rest.eval report
  | .stopReaper rest => rest.eval report
  | .run phase command rest =>
    let r := report phase command
    let after := (rest (r.answer command)).eval report
    { after with
      attempts := (phase, command) :: after.attempts
      log := if r.spawned then .spawned phase :: after.log else after.log }

end Script

end PidOne
