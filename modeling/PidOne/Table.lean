import PidOne.Failure

/-!
# Process tables

A table remembers which of its commands have not been collected and hands each collected status
to the holder of the command's handle. It is guarded by a lock, so its changes come in the order
in which tasks hold the lock.
-/

namespace PidOne

abbrev TaskId := Nat

/-- The place where one status passes from a table to the holder of a handle. -/
inductive Slot
  | waiting
  | unwanted
  | filled (status : ExitStatus)
  | lost
  deriving DecidableEq, Repr

/-- A status handed to nobody leaves no trace. -/
def Slot.fill (status : ExitStatus) : Slot → Slot
  | .waiting => .filled status
  | slot => slot

def Slot.abandon : Slot → Slot
  | .waiting => .lost
  | slot => slot

def Slot.disown : Slot → Slot
  | .waiting => .unwanted
  | slot => slot

/-- What waiting on a handle answers now, if it answers. -/
def Slot.answer? (pid : Pid) : Slot → Option (Except Failure ExitStatus)
  | .filled status => some (.ok status)
  | .lost => some (.error (.exitStatusLost pid))
  | _ => none

/-- A started command: its PID, which is also its process group, and where its status comes. -/
structure Handle where
  pid : Pid
  slot : Nat
  deriving DecidableEq, Repr

structure Table where
  holder : Option TaskId := none
  waiters : List (Pid × Nat) := []
  slots : List Slot := []
  deriving Repr

namespace Table

def lock? (t : Table) (task : TaskId) : Option Table :=
  match t.holder with
  | none => some { t with holder := some task }
  | some _ => none

def unlock? (t : Table) (task : TaskId) : Option Table :=
  if t.holder = some task then some { t with holder := none } else none

def isTracked (t : Table) (pid : Pid) : Bool := t.waiters.any (·.1 == pid)

def waiter? (t : Table) (pid : Pid) : Option Nat := t.waiters.lookup pid

def modifySlot (t : Table) (slot : Nat) (f : Slot → Slot) : Table :=
  { t with slots := t.slots.modify slot f }

def forget (t : Table) (pid : Pid) : Table :=
  { t with waiters := t.waiters.filter (·.1 != pid) }

/-- A waiter that is still there under the same PID is displaced and gets nothing any more. -/
def displace (t : Table) (pid : Pid) : Table :=
  match t.waiter? pid with
  | some slot => (t.forget pid).modifySlot slot .abandon
  | none => t

def register (t : Table) (pid : Pid) : Table × Handle :=
  let t := t.displace pid
  let slot := t.slots.length
  ({ t with waiters := (pid, slot) :: t.waiters, slots := t.slots ++ [.waiting] }, ⟨pid, slot⟩)

/-- Hand a collected status to its waiter. A PID without a waiter is an orphan's. -/
def collect (t : Table) (status : ExitStatus) : Table :=
  match t.waiter? status.pid with
  | some slot => (t.forget status.pid).modifySlot slot (.fill status)
  | none => t

/-- The end of the table: whoever still waits waits in vain. -/
def close (t : Table) : Table :=
  { (t.waiters.foldl (fun t w => t.modifySlot w.2 .abandon) t) with waiters := [] }

def drop (t : Table) (h : Handle) : Table := t.modifySlot h.slot .disown

def poll (t : Table) (h : Handle) : Option (Except Failure ExitStatus) :=
  t.slots[h.slot]?.bind (·.answer? h.pid)

end Table

end PidOne
