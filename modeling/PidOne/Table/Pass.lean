import PidOne.Table

/-!
# Reaping passes

A pass asks the kernel for one terminated child after another, without blocking and under the
table's lock, until there is none left.
-/

namespace PidOne

inductive WaitAnswer
  | report (pid : Pid) (raw : RawStatus)
  | interrupted
  | noneReady
  | noChildren
  | failed (number : Errno)
  deriving DecidableEq, Repr

def WaitAnswer.closes : WaitAnswer → Bool
  | .report .. | .interrupted => false
  | .noneReady | .noChildren | .failed _ => true

def WaitAnswer.status? : WaitAnswer → Option ExitStatus
  | .report pid raw => ExitStatus.ofRaw? pid raw
  | _ => none

/-- How far a pass has come, with the statuses it has collected in their order. -/
inductive Pass
  | queued
  | collecting (statuses : List ExitStatus)
  | leaving (statuses : List ExitStatus)
  | done (statuses : List ExitStatus)

namespace Pass

inductive Event
  | lock
  | wait (answer : WaitAnswer)
  | unlock

def step (task : TaskId) (t : Table) : Pass → Event → Option (Pass × Table)
  | .queued, .lock => (t.lock? task).map (.collecting [], ·)
  | .collecting statuses, .wait answer =>
    if answer.closes then some (.leaving statuses, t) else
    match answer.status? with
    | some status => some (.collecting (statuses ++ [status]), t.collect status)
    | none => some (.collecting statuses, t)
  | .leaving statuses, .unlock => (t.unlock? task).map (.done statuses, ·)
  | _, _ => none

end Pass

end PidOne
