import PidOne.Machine.Programs
import PidOne.Command
import PidOne.Table.Pass

/-!
# The supervising process

What the kernel does for the supervising process: it starts children, and tells how they end.
-/

namespace PidOne.Machine

open Text (Bytes)

def hasNul (c : Command) : Bool :=
  (c.program :: c.arguments).any fun text => text.toList.contains '\x00'

/-- A child of the supervising process that has not got its program yet, in a group of its own or
in the same one. It reads nothing. -/
def spawn (m : Machine) (c : Command) (ownGroup : Bool) : Except Cause Pid × Machine :=
  if hasNul c then (.error .nulByte, m) else
  match m.get? m.self with
  | none => (.error (.errno Errno.noProcess), m)
  | some self =>
    let pid := m.freePid
    let child := { self with
      pid, parent := self.pid
      group := if ownGroup then pid else self.group
      ignored := reservedSignals, caught := [] }
    (.ok pid, { m with processes := m.processes ++ [child], nextPid := pid + 1 })

def searchPath (environment : List Bytes) : List Bytes :=
  let path := environment.findSome? fun text =>
    if text.startsWith "PATH=" then some (String.ofList (text.toList.drop 5)) else none
  Text.split ':' (path.getD "/bin:/usr/bin")

/-- Look for a program in some directories. A refusal counts only when no later directory has the
program. -/
def search (m : Machine) (p : Process) (program : Bytes) (arguments : List Bytes) :
    List Bytes → Bool → Except Errno Image
  | [], isDenied => .error (if isDenied then Errno.accessDenied else Errno.noEntry)
  | directory :: rest, isDenied =>
    let path := if directory.isEmpty then program else directory ++ "/" ++ program
    match imageOf m p path arguments p.environment with
    | .ok found => .ok found
    | .error number =>
      if number = Errno.accessDenied then search m p program arguments rest true
      else if number = Errno.noEntry || number = Errno.notDirectory then
        search m p program arguments rest isDenied
      else .error number

def resolve (m : Machine) (p : Process) (arguments : List Bytes) : Except Errno Image :=
  let program := arguments.headD ""
  if program.toList.contains '/' then imageOf m p program arguments p.environment
  else if program.isEmpty then .error Errno.noEntry
  else if program.length > longestName then .error Errno.nameTooLong
  else search m p program arguments (searchPath p.environment) false

/-- Execute a command in such a child. One that cannot ends with status 127. -/
def startCommand (m : Machine) (pid : Pid) (c : Command) : Option Errno × Machine :=
  match m.get? pid with
  | none => (some Errno.noProcess, m)
  | some p =>
    match resolve m p ((c.program :: c.arguments).map Text.encode) with
    | .ok image => (none, m.execute catalogue p image p.environment)
    | .error number => (some number, m.terminate pid (exitRaw 127))

def endedChild? (m : Machine) : Option (Pid × RawStatus) :=
  m.processes.findSome? fun p =>
    if p.parent == m.self then p.raw?.map (p.pid, ·) else none

def waitAny (m : Machine) : WaitAnswer × Machine :=
  match m.endedChild? with
  | some (pid, raw) => (.report pid raw, m.remove pid)
  | none => (if m.processes.any (·.parent == m.self) then .noneReady else .noChildren, m)

def adoptOrphans (m : Machine) : Machine := { m with subreaper := true }

end PidOne.Machine
