import PidOne.Machine.Files

/-!
# Processes

The processes of the machine, what they have opened, and the machine itself. The supervising
process and the one that has started it run no routine: of them the machine keeps what the others
can see, and the signals that are under way to the first.
-/

namespace PidOne.Machine

open Text (Bytes)

inductive Life
  | running
  | stopped
  | ended (raw : RawStatus)
  deriving DecidableEq, Repr

inductive Channel
  | file (node : Node)
  /-- A text that was made when it was opened. -/
  | snapshot (text : Bytes)
  | pipe (number : Nat)

/-- An opened file, which descriptors share. -/
structure Opened where
  number : Nat
  channel : Channel
  offset : Nat := 0
  reads : Bool
  writes : Bool
  appends : Bool := false

structure Pipe where
  number : Nat
  /-- The file that is the pipe's name, if it has one. -/
  node : Option Node := none
  text : Bytes := ""
  /-- How often each end has been opened. -/
  readings : Nat := 0
  writings : Nat := 0

structure Holding where
  descriptor : Descriptor
  opened : Nat
  closesOnExec : Bool := false

structure Process where
  pid : Pid
  parent : Pid
  group : Pid
  session : Pid
  name : Bytes
  arguments : List Bytes := []
  environment : List Bytes := []
  life : Life := .running
  routine : Option Routine := none
  ready : Nat := 0
  /-- Whether its call waits for something. -/
  isBlocked : Bool := false
  /-- When its call ends at the latest, and how it has ended early. -/
  alarm : Option Nat := none
  isInterrupted : Bool := false
  holdings : List Holding := []
  directory : Node
  mask : Nat := 18
  ignored : List Signal := []
  caught : List Signal := []
  /-- Signals that wait for the process to be resumed. -/
  pending : List Signal := []
  /-- How it ends, once it gets to it: a signal has ended it. -/
  fate : Option RawStatus := none
  /-- Caught signals that it has not asked for yet. -/
  arrived : List Signal := []

namespace Process

def raw? (p : Process) : Option RawStatus :=
  match p.life with
  | .ended raw => some raw
  | _ => none

def hasEnded (p : Process) : Bool := p.raw?.isSome

def isRunning (p : Process) : Bool := p.life == .running

def isStopped (p : Process) : Bool := p.life == .stopped

def holding? (p : Process) (d : Descriptor) : Option Holding :=
  p.holdings.find? (·.descriptor == d)

/-- The least free descriptor from a bound on. -/
def freeFrom (p : Process) (least : Descriptor) : Descriptor :=
  let rec search : Nat → Descriptor → Descriptor
    | 0, d => d
    | fuel + 1, d => if (p.holding? d).isSome then search fuel (d + 1) else d
  search p.holdings.length least

def hold (p : Process) (h : Holding) : Process :=
  { p with holdings := h :: p.holdings.filter (·.descriptor != h.descriptor) }

def release (p : Process) (d : Descriptor) : Process :=
  { p with holdings := p.holdings.filter (·.descriptor != d) }

end Process

def exitRaw (code : Nat) : RawStatus := Int32.ofNat (code % 256 * 256)

def signalRaw (s : Signal) : RawStatus := Int32.ofInt s

end PidOne.Machine

namespace PidOne

/-- The operating system as far as commands show it. -/
structure Machine where
  /-- Microseconds. -/
  clock : Nat
  files : Machine.Files
  opened : List Machine.Opened := []
  pipes : List Machine.Pipe := []
  nextNumber : Nat := 0
  processes : List Machine.Process := []
  /-- Where the search for the next PID begins. -/
  nextPid : Pid
  self : Pid
  outer : Pid
  /-- Whether orphans become children of the supervising process, or else of `outer`. -/
  subreaper : Bool
  /-- Signals under way to the supervising process, with the times when they are there. -/
  arrivals : List (Nat × Signal) := []
  /-- Faults that the supervising process has been sent once. -/
  faults : List Signal := []
  killedBy : Option Signal := none
  scratch : Machine.Node
  /-- The files that hold what is written to standard output and to standard error. -/
  stdout : Machine.Node
  stderr : Machine.Node

namespace Machine

open Text (Bytes)

def get? (m : Machine) (pid : Pid) : Option Process := m.processes.find? (·.pid == pid)

def update (m : Machine) (pid : Pid) (f : Process → Process) : Machine :=
  { m with processes := m.processes.map fun p => if p.pid == pid then f p else p }

/-- Whether a PID is in use, be it by a process that has ended and was not collected. -/
def exists? (m : Machine) (pid : Pid) : Bool := (m.get? pid).isSome

def hasEnded (m : Machine) (pid : Pid) : Bool := (m.get? pid).all (·.hasEnded)

/-- Whether a PID still names a process, a group or a session. -/
def isTaken (m : Machine) (pid : Pid) : Bool :=
  m.processes.any fun p => p.pid == pid || p.group == pid || p.session == pid

/-- PIDs are below this bound. -/
def pidLimit : Pid := 32768

/-- Where the kernel starts over when it has come to the bound. -/
def leastPid : Pid := 300

/-- The PID for a new process: the first one that is free after the last that was given. -/
def freePid (m : Machine) : Pid :=
  let rec search : Nat → Pid → Pid
    | 0, pid => pid
    | fuel + 1, pid =>
      if pidLimit ≤ pid then search fuel leastPid
      else if m.isTaken pid then search fuel (pid + 1)
      else pid
  search (3 * m.processes.length + 2) m.nextPid

def remove (m : Machine) (pid : Pid) : Machine :=
  { m with processes := m.processes.filter (·.pid != pid) }

def opened? (m : Machine) (number : Nat) : Option Opened :=
  m.opened.find? (·.number == number)

def pipe? (m : Machine) (number : Nat) : Option Pipe := m.pipes.find? (·.number == number)

def openedBy? (m : Machine) (p : Process) (d : Descriptor) : Option Opened :=
  (p.holding? d).bind fun h => m.opened? h.opened

def modifyOpened (m : Machine) (number : Nat) (f : Opened → Opened) : Machine :=
  { m with opened := m.opened.map fun o => if o.number == number then f o else o }

def modifyPipe (m : Machine) (number : Nat) (f : Pipe → Pipe) : Machine :=
  { m with pipes := m.pipes.map fun x => if x.number == number then f x else x }

def isHeld (m : Machine) (number : Nat) : Bool :=
  m.processes.any fun p => p.holdings.any (·.opened == number)

/-- Forget the opened files that nobody holds any more, and the pipes without a name or an end. -/
def tidy (m : Machine) : Machine :=
  let opened := m.opened.filter fun o => m.isHeld o.number
  { m with
    opened
    pipes := m.pipes.filter fun x =>
      x.node.isSome || opened.any fun o =>
        match o.channel with
        | .pipe n => n == x.number
        | _ => false }

def addOpened (m : Machine) (channel : Channel) (access : Access) : Machine × Nat :=
  let o : Opened :=
    { number := m.nextNumber, channel, reads := access.reads, writes := access.writes
      appends := access.appends }
  ({ m with opened := o :: m.opened, nextNumber := m.nextNumber + 1 }, o.number)

def addPipe (m : Machine) (node : Option Node) : Machine × Nat :=
  ({ m with pipes := { number := m.nextNumber, node } :: m.pipes, nextNumber := m.nextNumber + 1 },
    m.nextNumber)

def isPipe (number : Nat) (o : Opened) : Bool :=
  match o.channel with
  | .pipe n => n == number
  | _ => false

def hasWriter (m : Machine) (pipe : Nat) : Bool :=
  m.opened.any fun o => isPipe pipe o && o.writes

def hasReader (m : Machine) (pipe : Nat) : Bool :=
  m.opened.any fun o => isPipe pipe o && o.reads

def shownOutput (m : Machine) : String := Text.decode (m.files.text m.stdout)

def shownErrors (m : Machine) : String := Text.decode (m.files.text m.stderr)

end Machine

end PidOne
