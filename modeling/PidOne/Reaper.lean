import PidOne.Table.Pass

/-!
# The reaper

A task that makes one reaping pass after another. Between two passes it idles until a child's
end is signalled or the interval is over; it ends only there, when it has been asked to stop.
-/

namespace PidOne

inductive Reaper.Activity
  | passing (pass : Pass)
  | idle (deadline : Nat)
  | ended

structure Reaper where
  /-- Milliseconds. -/
  interval : Nat
  activity : Reaper.Activity := .passing .queued
  /-- Whether a child has ended since the last wake-up for that reason. -/
  childEnded : Bool := false
  stopRequested : Bool := false

namespace Reaper

inductive Wake
  | stop
  | timer (now : Nat)
  | childEnded

inductive Event
  | pass (event : Pass.Event)
  | rest (now : Nat)
  | wake (reason : Wake)

/-- Also the effect of dropping the reaper. -/
def requestStop (r : Reaper) : Reaper := { r with stopRequested := true }

def arrive (s : Signal) (r : Reaper) : Reaper :=
  if s = Signal.child then { r with childEnded := true } else r

def hasEnded (r : Reaper) : Bool :=
  match r.activity with
  | .ended => true
  | _ => false

def step (task : TaskId) (t : Table) (r : Reaper) (e : Event) : Option (Reaper × Table) :=
  match r.activity, e with
  | .passing pass, .pass event =>
    (pass.step task t event).map fun (pass, t) => ({ r with activity := .passing pass }, t)
  | .passing (.done _), .rest now =>
    some ({ r with activity := .idle (now + max r.interval 1) }, t)
  | .idle _, .wake .stop =>
    if r.stopRequested then some ({ r with activity := .ended }, t) else none
  | .idle deadline, .wake (.timer now) =>
    if deadline ≤ now then some ({ r with activity := .passing .queued }, t) else none
  | .idle _, .wake .childEnded =>
    if r.childEnded then
      some ({ r with activity := .passing .queued, childEnded := false }, t)
    else none
  | _, _ => none

end Reaper

end PidOne
