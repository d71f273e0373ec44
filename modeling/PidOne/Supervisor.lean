import PidOne.Reaper
import PidOne.Runner
import PidOne.Supervisor.Script

/-!
# The supervisor

The script in progress beside the two tasks it starts: the reaper, and the relay that a running
command has. A step belongs to one of the three or is the arrival of a signal, and carries what
the kernel answered; the tasks take their steps in any order.
-/

namespace PidOne

structure Supervisor where
  script : Script
  runner : Runner := .idle none
  table : Table := {}
  reaper : Option Reaper := none
  adoptsOrphans : Bool := false
  log : List Line := []

namespace Supervisor

def mainTask : TaskId := 0

def reaperTask : TaskId := 1

def start (config : Config) (version : String) (self : Pid) : Supervisor :=
  { script := .ofConfig config version self }

inductive Event
  | advance
  | runner (event : Runner.Event)
  | reaper (event : Reaper.Event)
  | signal (signal : Signal)

/-- The operation at the head of the script, where it needs no answer or has it already. -/
def advance (s : Supervisor) : Option Supervisor :=
  match s.script with
  | .done _ => none
  | .log line rest => some { s with script := rest, log := s.log ++ [line] }
  | .adoptOrphans rest => some { s with script := rest, adoptsOrphans := true }
  | .receiveSignals rest => some { s with script := rest, runner := s.runner.register }
  | .startReaper interval rest => some { s with script := rest, reaper := some { interval } }
  | .run _ command rest =>
    match s.runner with
    | .idle _ =>
      (s.runner.step mainTask s.table (.begin command)).map fun (runner, table) =>
        { s with runner, table }
    | .finished answer _ =>
      (s.runner.step mainTask s.table .return).map fun (runner, table) =>
        { s with script := rest answer, runner, table }
    | _ => none
  | .stopReaper rest =>
    match s.reaper with
    | none => some { s with script := rest }
    | some reaper =>
      if reaper.hasEnded then some { s with script := rest, reaper := none }
      else if reaper.stopRequested then none
      else some { s with reaper := some reaper.requestStop }

/-- The start of a command is logged as soon as the runner attaches to it. -/
def runnerLines (phase : Phase) (r : Runner) : Runner.Event → List Line
  | .launch => if r.launched?.isSome then [.spawned phase] else []
  | _ => []

def runnerStep (s : Supervisor) (e : Runner.Event) : Option Supervisor :=
  match s.script, e with
  | _, .begin _ => none
  | _, .return => none
  | .run phase _ _, _ =>
    (s.runner.step mainTask s.table e).map fun (runner, table) =>
      { s with runner, table, log := s.log ++ runnerLines phase s.runner e }
  | _, _ => none

/-- Of what the reaper meets only a failure of the kernel is logged. -/
def reaperLines : Reaper.Event → List Line
  | .pass (.wait (.failed number)) => [.reapingFailed number]
  | _ => []

def reaperStep (s : Supervisor) (e : Reaper.Event) : Option Supervisor :=
  s.reaper.bind fun reaper =>
    (reaper.step reaperTask s.table e).map fun (reaper, table) =>
      { s with reaper := some reaper, table, log := s.log ++ reaperLines e }

def step (s : Supervisor) : Event → Option Supervisor
  | .advance => s.advance
  | .runner e => s.runnerStep e
  | .reaper e => s.reaperStep e
  | .signal signal =>
    some { s with
      runner := s.runner.arrive signal
      reaper := s.reaper.map (·.arrive signal) }

def result? (s : Supervisor) : Option Result :=
  match s.script with
  | .done result => some result
  | _ => none

end Supervisor

end PidOne
