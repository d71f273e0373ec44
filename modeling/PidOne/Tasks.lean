import PidOne.Host
import PidOne.Reaper
import PidOne.Runner

/-!
# Tasks on a host

The next step of each task of the supervising process, with the host's answer to what it asks the
kernel. A task that has nothing to do has no next step.
-/

namespace PidOne

variable {μ : Type} [Host μ]

def Spawning.next (s : Spawning) (c : Command) (ownGroup : Bool) (m : μ) :
    Option (Spawning.Event × μ) :=
  match s with
  | .queued => some (.lock, m)
  | .locked => some (.fork (Host.fork m c ownGroup).1, (Host.fork m c ownGroup).2)
  | .forked pid => some (.exec (Host.exec m pid c).1, (Host.exec m pid c).2)
  | .executing _ => some (.register, m)
  | .failed pid _ => some (.discard, Host.discard m pid)
  | .leaving _ => some (.unlock, m)
  | .done _ => none

def Pass.next (p : Pass) (m : μ) : Option (Pass.Event × μ) :=
  match p with
  | .queued => some (.lock, m)
  | .collecting _ => some (.wait (Host.waitAny m).1, (Host.waitAny m).2)
  | .leaving _ => some (.unlock, m)
  | .done _ => none

def Relay.next (r : Relay) (m : μ) : Option (Relay.Event × μ) :=
  if r.finished || r.asleep then none
  else if r.stopRequested then some (.stop, m)
  else match r.receivers.next? with
    | some signal =>
      let (result, m) := Host.forward m r.group signal
      some (.send signal result, m)
    | none => some (.sleep, m)

def Runner.next (r : Runner) (t : Table) (m : μ) : Option (Runner.Event × μ) :=
  match r with
  | .idle _ => none
  | .spawning command progress _ =>
    match progress.next command true m with
    | some (event, m) => some (.spawn event, m)
    | none => some (.launch, m)
  | .waiting child relay =>
    if (t.poll child).isSome then some (.receive, m)
    else (relay.next m).map fun (event, m) => (.relay event, m)
  | .detaching _ relay =>
    if relay.finished then some (.detach, m)
    else (relay.next m).map fun (event, m) => (.relay event, m)
  | .finished .. => none

def Reaper.next (r : Reaper) (m : μ) : Option (Reaper.Event × μ) :=
  match r.activity with
  | .passing pass =>
    match pass.next m with
    | some (event, m) => some (.pass event, m)
    | none => some (.rest (Host.milliseconds m), m)
  | .idle deadline =>
    if r.stopRequested then some (.wake .stop, m)
    else if r.childEnded then some (.wake .childEnded, m)
    else if deadline ≤ Host.milliseconds m then some (.wake (.timer (Host.milliseconds m)), m)
    else none
  | .ended => none

/-- When an idle reaper goes on at the latest. -/
def Reaper.alarm (r : Reaper) : Option Nat :=
  match r.activity with
  | .idle deadline => some deadline
  | _ => none

end PidOne
