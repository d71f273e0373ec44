import PidOne.Forwarder
import PidOne.Machine.Initial
import PidOne.Machine.Tasks
import PidOne.Table.Registry

/-!
# Sessions

A client that uses a process table, a reaper, a relay and a runner step by step. A step that has
to wait gives the tasks and the machine their turns; the others follow each other at once.
-/

namespace PidOne

namespace Session

inductive Request
  | line (text : String)
  | command (command : Command)

def Request.command? : Request → Except Failure Command
  | .line text => Command.ofLine text
  | .command c => .ok c

inductive Target
  | child (number : Nat)
  | group (group : Int)

inductive Step
  | spawn (request : Request)
  | spawnUntracked (request : Request)
  | isTracked (child : Nat)
  | exists (child : Nat)
  | settle (child : Nat)
  | reap (wanted : Nat)
  | wait (child : Nat)
  | drop (child : Nat)
  | dropTable
  | gone (child : Nat)
  | waitFile (name : String)
  | signal (child : Nat) (signal : Signal)
  | forward (target : Target) (signal : Signal)
  | raise (signal : Signal)
  | register
  | attach (child : Nat)
  | detach
  | startReaper (interval : Nat)
  | reaperFinished
  | stopReaper
  | dropReaper
  | registerRunner
  | run (phase : Phase) (request : Request)

inductive Answer
  | failure (failure : Failure)
  | nothingToWaitFor
  | started (child : Nat) (ownGroup : Bool)
  | truth (value : Bool)
  | ok
  | settled
  | pending
  | status (status : ExitStatus)
  /-- Statuses with the numbers of their children; an adopted orphan has none. -/
  | statuses (statuses : List (Option Nat × ExitStatus))
  | forwarded (result : Forwarded)
  | receivers (count : Nat)

/-- A child that the session has started. Its handle is there until it is used up. -/
structure Child where
  pid : Pid
  handle : Option Handle
  table : Nat

inductive Activity
  | ready
  | spawning (command : Command) (isTracked : Bool) (progress : Spawning)
  | reaping (collected : List ExitStatus) (pass : Pass)
  | running
  /-- The step is done once no task has anything left to do. -/
  | resting
  /-- The step looks again at a time. -/
  | polling (due : Nat)

end Session

structure Session where
  steps : List Session.Step
  activity : Session.Activity := .ready
  answers : List Session.Answer := []
  registry : Registry
  table : Nat
  children : List Session.Child := []
  forwarder : Forwarder := .unregistered
  /-- The reaper and the runner, each with the table of its clone. -/
  reaper : Option (Reaper × Nat) := none
  runner : Option (Runner × Nat) := none

namespace Session

def start (steps : List Step) : Session :=
  { steps, registry := ({} : Registry).create.1, table := ({} : Registry).create.2 }

def mainTask : TaskId := 0

def reaperTask : TaskId := 1

def answer (s : Session) (a : Answer) : Session :=
  { s with steps := s.steps.drop 1, activity := .ready, answers := s.answers ++ [a] }

def child (s : Session) (number : Nat) : Child :=
  (s.children[number]?).getD { pid := 0, handle := none, table := 0 }

def childNumber? (s : Session) (pid : Pid) : Option Nat := s.children.findIdx? (·.pid == pid)

def addChild (s : Session) (pid : Pid) (handle : Option Handle) : Session :=
  let c : Child := { pid, handle, table := s.table }
  { s with children := s.children ++ [c] }.answer (.started s.children.length handle.isSome)

def useUp (s : Session) (number : Nat) : Session :=
  { s with children := s.children.modify number fun c => { c with handle := none } }

/-- Known children in the order of their numbers, orphans after them by how they ended. -/
def report (s : Session) (statuses : List ExitStatus) : Answer :=
  let numbered := statuses.map fun status => (s.childNumber? status.pid, status)
  .statuses <| numbered.mergeSort fun a b =>
    match a.1, b.1 with
    | some i, some j => i ≤ j
    | some _, none => true
    | none, some _ => false
    | none, none => !(b.2.display < a.2.display)

/-- A signal that arrives reaches every receiver there is. -/
def arrive (s : Session) (signal : Signal) : Session :=
  { s with
    forwarder := s.forwarder.arrive signal
    reaper := s.reaper.map fun (reaper, table) => (reaper.arrive signal, table)
    runner := s.runner.map fun (runner, table) => (runner.arrive signal, table) }

def withRunner (s : Session) : Session :=
  match s.runner with
  | some _ => s
  | none => { s with
      runner := some (.idle none, s.table)
      registry := s.registry.clone s.table }

def registerRunner (s : Session) : Session :=
  { s with runner := s.runner.map fun (runner, table) => (runner.register, table) }

def spawnStep (s : Session) (m : Machine) (c : Command) (isTracked : Bool) (progress : Spawning) :
    Option (Session × Machine) :=
  match progress with
  | .done (.ok handle) =>
    some (s.addChild handle.pid (some handle), m)
  | .done (.error cause) => some (s.answer (.failure (.spawnFailed c.program cause)), m)
  | progress => do
    let (event, m) ← progress.next c isTracked m
    let (progress, table) ← progress.step mainTask (s.registry.get s.table) event
    some ({ s with
      registry := s.registry.set s.table table
      activity := .spawning c isTracked progress }, m)

/-- A child that no table knows, in the session's own group. -/
def spawnUntracked (s : Session) (m : Machine) (c : Command) : Session × Machine :=
  match m.spawn c false with
  | (.error cause, m) => (s.answer (.failure (.spawnFailed c.program cause)), m)
  | (.ok pid, m) =>
    match m.startCommand pid c with
    | (some number, m) =>
      (s.answer (.failure (.spawnFailed c.program (.errno number))), m.remove pid)
    | (none, m) => (s.addChild pid none, m)

/-- Continue to reap until enough statuses are there. Before another pass a child has to end. -/
def reapStep (s : Session) (m : Machine) (wanted : Nat) (collected : List ExitStatus)
    (pass : Pass) : Option (Session × Machine) :=
  match pass with
  | .done statuses =>
    let collected := collected ++ statuses
    if wanted ≤ collected.length then some (s.answer (s.report collected), m)
    else if m.endedChild?.isSome then
      some ({ s with activity := .reaping collected .queued }, m)
    else none
  | pass => do
    let (event, m) ← pass.next m
    let (pass, table) ← pass.step mainTask (s.registry.get s.table) event
    some ({ s with
      registry := s.registry.set s.table table, activity := .reaping collected pass }, m)

/-- The answer to waiting, if there is one. Without a reaper only the tasks get their turns. -/
def waitStep (s : Session) (number : Nat) : Option Session :=
  let c := s.child number
  match c.handle with
  | none => some (s.answer .nothingToWaitFor)
  | some handle =>
    match (s.registry.get c.table).poll handle with
    | some (.ok status) => some ((s.useUp number).answer (.status status))
    | some (.error failure) => some ((s.useUp number).answer (.failure failure))
    | none => if s.reaper.isSome then none else some { s with activity := .resting }

def dropStep (s : Session) (number : Nat) : Session :=
  let c := s.child number
  match c.handle with
  | none => s.answer .ok
  | some handle =>
    ({ s with registry :=
        s.registry.set c.table ((s.registry.get c.table).drop handle) }.useUp number).answer .ok

def dropTable (s : Session) : Session :=
  let (registry, table) := (s.registry.release s.table).create
  { s with registry, table }.answer .ok

/-- A number that is no standard signal is refused before the kernel is asked. -/
def signalStep (s : Session) (m : Machine) (number : Nat) (signal : Signal) : Session × Machine :=
  if !signal.isStandard then (s.answer (.failure (.system Errno.invalid)), m) else
  match m.signalGroup (s.child number).pid signal with
  | .ok m => (s.answer .ok, m)
  | .error e => (s.answer (.failure (.system e)), m)

def detachStep (s : Session) : Option Session :=
  match s.forwarder with
  | .attached relay =>
    if relay.stopRequested then
      (s.forwarder.step .detach).map fun forwarder =>
        { s with forwarder }.answer (.receivers relay.receivers.count)
    else (s.forwarder.step .requestStop).map ({ s with forwarder := · })
  | .detached receivers => some (s.answer (.receivers receivers.count))
  | .unregistered => some (s.answer .nothingToWaitFor)

def stopReaperStep (s : Session) : Option Session :=
  match s.reaper with
  | none => some (s.answer .ok)
  | some (reaper, table) =>
    if reaper.hasEnded then
      some ({ s with reaper := none, registry := s.registry.release table }.answer .ok)
    else if reaper.stopRequested then none
    else some { s with reaper := some (reaper.requestStop, table) }

def runStep (s : Session) (m : Machine) : Option (Session × Machine) := do
  let (runner, table) ← s.runner
  let apply (m : Machine) (event : Runner.Event) : Option (Session × Machine) := do
    let (runner, t) ← runner.step mainTask (s.registry.get table) event
    some ({ s with runner := some (runner, table), registry := s.registry.set table t }, m)
  match runner with
  | .finished result _ =>
    let (s, m) ← apply m .return
    some (s.answer (match result with
      | .ok status => .status status
      | .error failure => .failure failure), m)
  | runner =>
    let (event, m) ← runner.next (s.registry.get table) m
    apply m event

def beginRun (s : Session) (c : Command) : Option Session := do
  let s := s.withRunner
  let (runner, table) ← s.runner
  let (runner, t) ← runner.step mainTask (s.registry.get table) (.begin c)
  some { s with
    runner := some (runner, table), registry := s.registry.set table t, activity := .running }

def releaseReaper (s : Session) : Session :=
  match s.reaper with
  | some (_, table) => { s with reaper := none, registry := s.registry.release table }
  | none => s

/-- Microseconds between two looks. -/
def pollTime : Nat := 1000

def pollStep (s : Session) (m : Machine) (isThere : Bool) : Session :=
  if isThere then s.answer (.truth true)
  else { s with activity := .polling (m.clock + pollTime) }

def beginStep (s : Session) (m : Machine) : Step → Option (Session × Machine)
  | .spawn request =>
    match request.command? with
    | .ok c => some ({ s with activity := .spawning c true .queued }, m)
    | .error failure => some (s.answer (.failure failure), m)
  | .spawnUntracked request =>
    match request.command? with
    | .ok c => some (s.spawnUntracked m c)
    | .error failure => some (s.answer (.failure failure), m)
  | .isTracked number =>
    some (s.answer (.truth ((s.registry.get s.table).isTracked (s.child number).pid)), m)
  | .exists number => some (s.answer (.truth (m.exists? (s.child number).pid)), m)
  | .settle number =>
    if m.hasEnded (s.child number).pid then some (s.answer .settled, m) else none
  | .reap _ => some ({ s with activity := .reaping [] .queued }, m)
  | .wait number => (s.waitStep number).map (·, m)
  | .drop number => some (s.dropStep number, m)
  | .dropTable => some (s.dropTable, m)
  | .gone number => some (s.pollStep m (!m.exists? (s.child number).pid), m)
  | .waitFile name => some (s.pollStep m (m.hasFile name), m)
  | .signal number signal => some (s.signalStep m number signal)
  | .forward target signal =>
    let group : Int := match target with
      | .child number => (s.child number).pid
      | .group group => group
    let (result, m) := Host.forward m group signal
    some (s.answer (.forwarded result), m)
  | .raise signal => some ({ s with activity := .resting }, m.arrive signal 0)
  | .register =>
    let receivers : Receivers := {}
    (s.forwarder.step .register).map fun forwarder =>
      ({ s with forwarder }.answer (.receivers receivers.count), m)
  | .attach number =>
    match s.forwarder.step (.attach (s.child number).pid) with
    | some forwarder => some ({ s with forwarder }.answer .ok, m)
    | none => some (s.answer .nothingToWaitFor, m)
  | .detach => s.detachStep.map (·, m)
  | .startReaper interval =>
    let s := s.releaseReaper
    some ({ s with
      reaper := some ({ interval }, s.table)
      registry := s.registry.clone s.table
      activity := .resting }, m)
  | .reaperFinished =>
    some (s.answer (.truth (s.reaper.all fun (reaper, _) => reaper.hasEnded)), m)
  | .stopReaper => s.stopReaperStep.map (·, m)
  | .dropReaper =>
    some ({ s with
      reaper := s.reaper.map fun (reaper, table) => (reaper.requestStop, table)
      activity := .resting }, m)
  | .registerRunner =>
    some (s.withRunner.registerRunner.answer .ok, m)
  | .run _ request =>
    match request.command? with
    | .ok c => (s.beginRun c).map (·, m)
    | .error failure => some (s.answer (.failure failure), m)

def mainNext (s : Session) (m : Machine) : Option (Session × Machine) :=
  match s.activity, s.steps with
  | .spawning c isTracked progress, _ => s.spawnStep m c isTracked progress
  | .reaping collected pass, .reap wanted :: _ => s.reapStep m wanted collected pass
  | .running, _ => s.runStep m
  | .ready, step :: _ => s.beginStep m step
  | .polling due, step :: _ => if due ≤ m.clock then s.beginStep m step else none
  | _, _ => none

/-- The time up to which nothing happens but what the machine does. -/
def limit? (s : Session) : Option Nat :=
  match s.activity, s.reaper.bind (·.1.alarm.map Machine.microseconds) with
  | .polling due, some alarm => some (min due alarm)
  | .polling due, none => some due
  | _, alarm => alarm

def relayNext (s : Session) (m : Machine) : Option (Session × Machine) := do
  match s.forwarder with
  | .attached relay =>
    let (event, m) ← relay.next m
    let forwarder ← s.forwarder.step (.relay event)
    some ({ s with forwarder }, m)
  | _ => none

def reaperNext (s : Session) (m : Machine) : Option (Session × Machine) := do
  let (reaper, table) ← s.reaper
  let (event, m) ← reaper.next m
  let (reaper, t) ← reaper.step reaperTask (s.registry.get table) event
  some ({ s with reaper := some (reaper, table), registry := s.registry.set table t }, m)

def rest (s : Session) : Session :=
  match s.steps with
  | .dropReaper :: _ => s.releaseReaper.answer .ok
  | .wait _ :: _ => s.answer .pending
  | _ => s.answer .ok

def isResting (s : Session) : Bool :=
  match s.activity with
  | .resting => true
  | _ => false

/-- One round: a signal that has arrived, else the client, else one of its tasks, else the end of
a rest, else the machine. -/
def round (s : Session) (m : Machine) : Option (Session × Machine) :=
  match m.arrival? with
  | some (signal, m) => some (s.arrive signal, m)
  | none =>
    (s.mainNext m).or <| (s.relayNext m).or <| (s.reaperNext m).or <|
    if s.isResting && m.arrivals.isEmpty then some (s.rest, m)
    else (m.advance s.limit?).map (s, ·)

def rounds : Nat → Session → Machine → Session × Machine
  | 0, s, m => (s, m)
  | limit + 1, s, m =>
    if s.steps.isEmpty then (s, m) else
    match s.round m with
    | some (s, m) => rounds limit s m
    | none => (s, m)

/-- More rounds than ten seconds of the machine's time have. -/
def roundLimit : Nat := 3000000

def run (steps : List Step) (m : Machine) : List Answer × Machine :=
  let (s, m) := rounds roundLimit (start steps) m
  (s.answers, m)

end Session

end PidOne
