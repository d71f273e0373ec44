import PidOne.Command
import PidOne.Relay
import PidOne.Table.Spawning

/-!
# Running a command

A runner starts one command at a time, relays signals to it until its status is there, and keeps
the receivers from one command to the next. That receivers could not be made is left out.
-/

namespace PidOne

inductive Runner
  | idle (receivers : Option Receivers)
  | spawning (command : Command) (progress : Spawning) (receivers : Receivers)
  | waiting (child : Handle) (relay : Relay)
  | detaching (answer : Except Failure ExitStatus) (relay : Relay)
  | finished (answer : Except Failure ExitStatus) (receivers : Receivers)

namespace Runner

inductive Event
  | begin (command : Command)
  | spawn (event : Spawning.Event)
  | launch
  | receive
  | relay (event : Relay.Event)
  | detach
  | return

/-- Receivers are made once; asking again changes nothing. -/
def register : Runner → Runner
  | .idle none => .idle (some {})
  | r => r

def arrive (s : Signal) : Runner → Runner
  | .idle receivers => .idle (receivers.map (·.arrive s))
  | .spawning command progress receivers => .spawning command progress (receivers.arrive s)
  | .waiting child relay => .waiting child (relay.arrive s)
  | .detaching answer relay => .detaching answer (relay.arrive s)
  | .finished answer receivers => .finished answer (receivers.arrive s)

def step (task : TaskId) (t : Table) : Runner → Event → Option (Runner × Table)
  | .idle receivers, .begin command => some (.spawning command .queued (receivers.getD {}), t)
  | .spawning command progress receivers, .spawn event =>
    (progress.step task t event).map fun (progress, t) =>
      (.spawning command progress receivers, t)
  | .spawning _ (.done (.ok child)) receivers, .launch =>
    some (.waiting child { group := child.pid, receivers }, t)
  | .spawning command (.done (.error cause)) receivers, .launch =>
    some (.finished (.error (.spawnFailed command.program cause)) receivers, t)
  | .waiting child relay, .receive =>
    (t.poll child).map fun answer => (.detaching answer relay.requestStop, t)
  | .waiting child relay, .relay event => (relay.step event).map (.waiting child ·, t)
  | .detaching answer relay, .relay event => (relay.step event).map (.detaching answer ·, t)
  | .detaching answer relay, .detach =>
    if relay.finished then some (.finished answer relay.receivers, t) else none
  | .finished _ receivers, .return => some (.idle (some receivers), t)
  | _, _ => none

def launched? : Runner → Option Handle
  | .spawning _ (.done (.ok child)) _ => some child
  | _ => none

end Runner

end PidOne
