import PidOne.Machine.Calls
import PidOne.Machine.Programs

/-!
# The schedule

Processes run beside each other, each at its own pace: the next call is that of the process whose
time comes first. When all wait, the clock goes on to the next alarm.
-/

namespace PidOne.Machine

/-- Microseconds until a process goes on that has waited. -/
def wakeTime : Nat := 40

def wake (m : Machine) : Machine :=
  let wakes (p : Process) : Bool :=
    p.isBlocked && p.isRunning && p.fate.isNone && isReady m p
  if m.processes.any wakes then
    { m with processes := m.processes.map fun p =>
        if wakes p then
          { p with isBlocked := false, ready := m.clock + wakeTime }
        else p }
  else m

def due? (p : Process) : Option Nat :=
  if p.hasEnded then none
  else if p.fate.isSome then some p.ready
  else if p.isRunning && p.routine.isSome then if p.isBlocked then p.alarm else some p.ready
  else none

/-- The process whose time comes first; of several, the first one. -/
def next? (m : Machine) : Option (Nat × Process) :=
  m.processes.foldl (fun best p =>
    match due? p, best with
    | none, best => best
    | some due, none => some (due, p)
    | some due, some (least, q) => if due < least then some (due, p) else some (least, q)) none

def step (m : Machine) (due : Nat) (p : Process) : Machine :=
  let m := { m with clock := max m.clock due }
  match p.fate, p.routine with
  | some raw, _ => (m.terminate p.pid raw).wake
  | none, none => m
  | none, some r =>
    match perform catalogue m p r with
    | some m => m.wake
    | none => m.update p.pid fun p => { p with isBlocked := true }

/-- Let the machine go on, at most to the next arrival of a signal and to a given time. -/
def advance (m : Machine) (limit : Option Nat) : Option Machine :=
  let arrival := m.arrivals.head?.map (·.1)
  let bound := match arrival, limit with
    | some a, some b => some (min a b)
    | a, b => a.or b
  match m.next?, bound with
  | none, none => none
  | none, some bound => some { m with clock := max m.clock bound }
  | some (due, p), none => some (m.step due p)
  | some (due, p), some bound =>
    if bound < due then some { m with clock := max m.clock bound } else some (m.step due p)

end PidOne.Machine
