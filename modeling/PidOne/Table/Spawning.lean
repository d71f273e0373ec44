import PidOne.Table

/-!
# Starting a command

The table's lock is held from before the fork until the child is registered, or until a child
that could not execute its program has been collected again.
-/

namespace PidOne

inductive Spawning
  | queued
  | locked
  | forked (pid : Pid)
  | executing (pid : Pid)
  | failed (pid : Pid) (cause : Cause)
  | leaving (answer : Except Cause Handle)
  | done (answer : Except Cause Handle)

namespace Spawning

inductive Event
  | lock
  | fork (answer : Except Cause Pid)
  | exec (refusal : Option Errno)
  | discard
  | register
  | unlock

def step (task : TaskId) (t : Table) : Spawning → Event → Option (Spawning × Table)
  | .queued, .lock => (t.lock? task).map (.locked, ·)
  | .locked, .fork (.ok pid) => some (.forked pid, t)
  | .locked, .fork (.error cause) => some (.leaving (.error cause), t)
  | .forked pid, .exec none => some (.executing pid, t)
  | .forked pid, .exec (some number) => some (.failed pid (.errno number), t)
  | .failed _ cause, .discard => some (.leaving (.error cause), t)
  | .executing pid, .register => some (.leaving (.ok (t.register pid).2), (t.register pid).1)
  | .leaving answer, .unlock => (t.unlock? task).map (.done answer, ·)
  | _, _ => none

end Spawning

end PidOne
