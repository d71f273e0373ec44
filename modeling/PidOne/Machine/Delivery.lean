import PidOne.Machine.Process

/-!
# The delivery of signals

What a signal does to a process, and what the end of a process does to others: its children are
adopted, its parent is told, and stopped groups that nobody looks after any more are resumed.
-/

namespace PidOne.Machine

inductive Reaction
  | terminate
  | ignore
  | stop
  | resume
  deriving DecidableEq, Repr

def reaction (s : Signal) : Reaction :=
  if s = 17 || s = 23 || s = 28 then .ignore
  else if s = 18 then .resume
  else if s = 19 || s = 20 || s = 21 || s = 22 then .stop
  else .terminate

/-- Faults of the processor. Of pending signals these are taken first. -/
def isFault (s : Signal) : Bool := [4, 5, 7, 8, 11, 31].contains s

/-- Microseconds until a signal is seen by the supervising process. -/
def signalDelay : Nat := 100

/-- The signals that nobody receives: the C library keeps them for itself. -/
def reservedSignals : List Signal := [32, 33]

/-- A signal for the supervising process. It handles what it forwards and the end of its children,
and ignores broken pipes. The first fault of a kind is taken for an overflow of its stack, and only
the second one ends it. -/
def arrive (m : Machine) (s : Signal) (delay : Nat := signalDelay) : Machine :=
  if Signal.forwarded.contains s || s = Signal.child then
    { m with arrivals := m.arrivals ++ [(m.clock + delay, s)] }
  else if s = Signal.pipe || reservedSignals.contains s then m
  else if (s = 7 || s = 11) && !m.faults.contains s then { m with faults := s :: m.faults }
  else match reaction s with
    | .terminate => { m with killedBy := m.killedBy.or (some s) }
    | _ => m

def arrival? (m : Machine) : Option (Signal × Machine) :=
  match m.arrivals with
  | (due, s) :: rest => if due ≤ m.clock then some (s, { m with arrivals := rest }) else none
  | [] => none

def adopter (m : Machine) : Pid := if m.subreaper then m.self else m.outer

/-- Whether nobody outside a group, but in its session, is the parent of one of its members. -/
def isOrphaned (m : Machine) (group : Pid) (leaving : Option Pid) : Bool :=
  m.processes.all fun p =>
    p.group != group || some p.pid == leaving || p.hasEnded ||
      match m.get? p.parent with
      | some q => q.group == group || q.session != p.session
      | none => true

def hasStopped (m : Machine) (group : Pid) : Bool :=
  m.processes.any fun p => p.group == group && p.isStopped

def nextPending? (p : Process) : Option Signal :=
  if p.pending.contains Signal.kill then some Signal.kill
  else ((p.pending.filter isFault).min?).or p.pending.min?

def stopSignals : List Signal := [19, 20, 21, 22]

/-- What a signal makes of the pending ones: resuming and stopping cancel each other. -/
def queue (s : Signal) (p : Process) : Process :=
  let pending := if s = Signal.cont then p.pending.filter (!stopSignals.contains ·)
    else if stopSignals.contains s then p.pending.filter (· != Signal.cont)
    else p.pending
  let isDropped := s != Signal.kill && s != Signal.stop && !p.caught.contains s &&
    (p.ignored.contains s || reaction s == .ignore || reaction s == .resume)
  let isQueued := isDropped || (s < Signal.realtimeMin && pending.contains s)
  { p with pending := if isQueued then pending else pending ++ [s] }

def catchSignal (s : Signal) (p : Process) : Process :=
  { p with arrived := p.arrived ++ [s], isInterrupted := p.isBlocked || p.isInterrupted }

/-- Microseconds that the end by a signal takes. -/
def dyingTime : Nat := 50

def condemn (now : Nat) (s : Signal) (p : Process) : Process :=
  { p with fate := some (signalRaw s), ready := now + dyingTime }

mutual

def deliver : Nat → Machine → Pid → Signal → Machine
  | 0, m, _, _ => m
  | depth + 1, m, pid, s =>
    match m.get? pid with
    | none => m
    | some p =>
      if pid == m.self then m.arrive s
      else if p.hasEnded || p.fate.isSome || p.routine.isNone then m
      else
        let m := m.update pid (queue s)
        if p.isStopped && s != Signal.cont && s != Signal.kill then m else
        let m := m.update pid fun p => { p with life := .running }
        let m := if p.isStopped then deliver depth m p.parent Signal.child else m
        takePending depth m pid

def takePending : Nat → Machine → Pid → Machine
  | 0, m, _ => m
  | depth + 1, m, pid =>
    match m.get? pid with
    | none => m
    | some p =>
      if p.fate.isSome then m else
      match p.life, nextPending? p with
      | .running, some s =>
        let m := m.update pid fun p => { p with pending := p.pending.erase s }
        if p.caught.contains s then takePending depth (m.update pid (catchSignal s)) pid
        else if p.ignored.contains s && s != Signal.stop then takePending depth m pid
        else match reaction s with
          | .terminate => m.update pid (condemn m.clock s)
          | .stop =>
            if s != Signal.stop && m.isOrphaned p.group none then takePending depth m pid
            else deliver depth (m.update pid fun p => { p with life := .stopped }) p.parent
              Signal.child
          | _ => takePending depth m pid
      | _, _ => m

def finish : Nat → Machine → Pid → RawStatus → Machine
  | 0, m, _, _ => m
  | depth + 1, m, pid, raw =>
    match m.get? pid with
    | none => m
    | some p =>
      if p.hasEnded then m else
      let children := m.processes.filter (·.parent == pid)
      let adopter := m.adopter
      let m := { m with processes := m.processes.map fun (q : Process) =>
        if q.pid == pid then { q with life := .ended raw, pending := [], holdings := [] }
        else if q.parent == pid then { q with parent := adopter }
        else q }
      let m := m.tidy
      let m := children.foldl (fun m q =>
        let m := if q.hasEnded then deliver depth m adopter Signal.child else m
        if q.group != p.group && q.session == p.session then abandon depth m q.group none
        else m) m
      let m := match m.get? p.parent with
        | some parent =>
          if parent.group != p.group && parent.session == p.session then
            abandon depth m p.group (some pid)
          else m
        | none => m
      let isUnwanted := (m.get? p.parent).any (·.ignored.contains Signal.child)
      let m := deliver depth m p.parent Signal.child
      if isUnwanted then m.remove pid else m

/-- A group that is left alone while one of its processes is stopped is hung up and resumed. -/
def abandon : Nat → Machine → Pid → Option Pid → Machine
  | 0, m, _, _ => m
  | depth + 1, m, group, leaving =>
    if m.hasStopped group && m.isOrphaned group leaving then
      let members := m.processes.filter (·.group == group)
      let m := members.foldl (fun m p => deliver depth m p.pid 1) m
      members.foldl (fun m p => deliver depth m p.pid Signal.cont) m
    else m

end

/-- More than any chain of signals and ends that one of them leads to. -/
def deepest (m : Machine) : Nat := 100 + 8 * m.processes.length

def send (m : Machine) (pid : Pid) (s : Signal) : Machine := deliver m.deepest m pid s

def terminate (m : Machine) (pid : Pid) (raw : RawStatus) : Machine := finish m.deepest m pid raw

/-- Zero only probes; the last real-time signal is the greatest number. -/
def isValidSignal (s : Signal) : Bool := 0 ≤ s && s ≤ Signal.realtimeMax

/-- Send a signal to all processes of a kind. Those that have ended still count until they are
collected. -/
def signalMembers (m : Machine) (isMember : Process → Bool) (s : Signal) : Except Errno Machine :=
  let members := m.processes.filter isMember
  if members.isEmpty then .error Errno.noProcess
  else if !isValidSignal s then .error Errno.invalid
  else if s = 0 then .ok m
  else .ok (members.foldl (fun m p => m.send p.pid s) m)

/-- The system call of a process: positive targets are processes, negative ones groups, zero is
the caller's own group, and minus one all processes but the caller and the first one. -/
def kill (m : Machine) (caller : Process) (target : Int) (s : Signal) : Except Errno Machine :=
  m.signalMembers (fun p =>
    if target > 0 then (p.pid : Int) == target
    else if target = 0 then p.group == caller.group
    else if target = -1 then p.pid != 1 && p.pid != caller.pid
    else (p.group : Int) == -target) s

def signalGroup (m : Machine) (group : Int) (s : Signal) : Except Errno Machine :=
  if group < 0 then .error Errno.invalid else
  match m.get? m.self with
  | some caller => m.kill caller (-group) s
  | none => .error Errno.noProcess

end PidOne.Machine
