import PidOne.ExitStatus
import PidOne.Errno
import PidOne.Text.Bytes

/-!
# Routines

What a process does, as a tree of system calls: each call says how the process goes on with the
kernel's answer. `Routine.Program` is the monad in which routines are written.
-/

namespace PidOne.Machine

open Text (Bytes)

abbrev Descriptor := Nat

structure Access where
  reads : Bool := false
  writes : Bool := false
  creates : Bool := false
  truncates : Bool := false
  appends : Bool := false
  /-- The file must not be there yet. -/
  isNew : Bool := false
  deriving DecidableEq, Repr

inductive Kind
  | regular
  | directory
  | link
  | fifo
  | device
  deriving DecidableEq, Repr

structure Status where
  kind : Kind
  /-- The permission bits. -/
  mode : Nat
  size : Nat
  /-- What tells a file from all others. -/
  identity : Nat × Nat
  links : Nat
  /-- Microseconds. -/
  modified : Nat
  deriving DecidableEq, Repr

inductive Change
  | makeDirectory (path : Bytes) (mode : Nat)
  | makeFifo (path : Bytes) (mode : Nat)
  | removeDirectory (path : Bytes)
  | unlink (path : Bytes)
  | rename (source target : Bytes)
  | link (source target : Bytes)
  | symlink (text target : Bytes)
  | setMode (path : Bytes) (mode : Nat)
  | setTime (path : Bytes) (modified : Option Nat)
  | truncate (path : Bytes) (size : Nat)
  | enter (path : Bytes)

inductive Disposition
  | default
  | ignore
  | catch
  deriving DecidableEq, Repr

structure Identity where
  pid : Pid
  parent : Pid
  group : Pid
  session : Pid

inductive Origin
  | start
  | current
  | finish
  deriving DecidableEq, Repr

inductive Awaited
  | any
  | child (pid : Pid)
  deriving DecidableEq, Repr

inductive Routine
  | exit (code : Nat)
  | spend (micros : Nat) (rest : Unit → Routine)
  | openFile (path : Bytes) (access : Access) (mode : Nat)
      (rest : Except Errno Descriptor → Routine)
  | close (descriptor : Descriptor) (rest : Except Errno Unit → Routine)
  /-- A copy of a descriptor, the least that is free and not below a bound. -/
  | duplicate (descriptor least : Descriptor) (closesOnExec : Bool)
      (rest : Except Errno Descriptor → Routine)
  /-- A copy of a descriptor in the place of another one. -/
  | assign (source target : Descriptor) (rest : Except Errno Unit → Routine)
  | openPipe (rest : Descriptor × Descriptor → Routine)
  | read (descriptor : Descriptor) (count : Nat) (rest : Except Errno Bytes → Routine)
  | write (descriptor : Descriptor) (text : Bytes) (rest : Except Errno Nat → Routine)
  | seek (descriptor : Descriptor) (offset : Int) (origin : Origin)
      (rest : Except Errno Nat → Routine)
  | status (path : Bytes) (follows : Bool) (rest : Except Errno Status → Routine)
  | statusOf (descriptor : Descriptor) (rest : Except Errno Status → Routine)
  | list (path : Bytes) (rest : Except Errno (List Bytes) → Routine)
  | readLink (path : Bytes) (rest : Except Errno Bytes → Routine)
  | change (change : Change) (rest : Except Errno Unit → Routine)
  | directory (rest : Bytes → Routine)
  /-- The bits that new files do not get, and new ones for them. -/
  | mask (bits : Option Nat) (rest : Nat → Routine)
  | fork (child : Unit → Routine) (rest : Pid → Routine)
  | exec (path : Bytes) (arguments environment : List Bytes) (rest : Errno → Routine)
  /-- The child that has ended, and how; nothing when none has and the call does not block. -/
  | wait (awaited : Awaited) (blocks : Bool)
      (rest : Except Errno (Option (Pid × RawStatus)) → Routine)
  | kill (target : Int) (signal : Signal) (rest : Except Errno Unit → Routine)
  /-- The disposition of a signal, and a new one for it. -/
  | react (signal : Signal) (disposition : Option Disposition) (rest : Disposition → Routine)
  /-- The caught signals that have come since the last question, which takes some time. -/
  | caught (micros : Nat) (rest : List Signal → Routine)
  /-- Sleep, unless a caught signal interrupts it: then the answer is false. -/
  | sleep (micros : Nat) (rest : Bool → Routine)
  /-- Wait until a named pipe has been opened at its other end more often than so. -/
  | meet (descriptor : Descriptor) (openings : Nat) (rest : Except Errno Unit → Routine)
  | identity (rest : Identity → Routine)
  | identityOf (pid : Pid) (rest : Option Identity → Routine)
  | setGroup (pid group : Pid) (rest : Except Errno Unit → Routine)
  | setSession (rest : Except Errno Unit → Routine)
  | processes (rest : List Pid → Routine)
  /-- Microseconds. -/
  | clock (rest : Nat → Routine)

/-- What a program is started with; its first argument is the name by which it is called. -/
structure Start where
  arguments : List Bytes
  /-- Variables with their values, as they are written. -/
  environment : List Bytes

def Start.called (s : Start) : Bytes := s.arguments.headD ""

def Start.operands (s : Start) : List Bytes := s.arguments.drop 1

namespace Routine

instance : Inhabited Routine := ⟨.exit 0⟩

/-- A part of a routine: given what follows its answer, the whole. -/
def Program (α : Type) : Type := (α → Routine) → Routine

instance : Monad Program where
  pure a := fun rest => rest a
  bind part next := fun rest => part fun a => next a rest

namespace Program

variable {α : Type}

/-- The end of the process, whatever should have followed. -/
def exit (code : Nat) : Program α := fun _ => .exit code

def spend (micros : Nat) : Program Unit := Routine.spend micros

def openFile (path : Bytes) (access : Access) (mode : Nat := 438) :
    Program (Except Errno Descriptor) := Routine.openFile path access mode

def close (d : Descriptor) : Program (Except Errno Unit) := Routine.close d

def duplicate (d least : Descriptor) (closesOnExec : Bool := true) :
    Program (Except Errno Descriptor) := Routine.duplicate d least closesOnExec

def assign (source target : Descriptor) : Program (Except Errno Unit) := Routine.assign source target

def openPipe : Program (Descriptor × Descriptor) := Routine.openPipe

def read (d : Descriptor) (count : Nat) : Program (Except Errno Bytes) := Routine.read d count

def write (d : Descriptor) (text : Bytes) : Program (Except Errno Nat) := Routine.write d text

def seek (d : Descriptor) (offset : Int) (origin : Origin) : Program (Except Errno Nat) :=
  Routine.seek d offset origin

def status (path : Bytes) (follows : Bool := true) : Program (Except Errno Status) :=
  Routine.status path follows

def statusOf (d : Descriptor) : Program (Except Errno Status) := Routine.statusOf d

def list (path : Bytes) : Program (Except Errno (List Bytes)) := Routine.list path

def readLink (path : Bytes) : Program (Except Errno Bytes) := Routine.readLink path

def change (c : Change) : Program (Except Errno Unit) := Routine.change c

def directory : Program Bytes := Routine.directory

def mask (bits : Option Nat) : Program Nat := Routine.mask bits

/-- Two processes go on from here: the answer is the child's PID in one and nothing in the other. -/
def fork : Program (Option Pid) := fun rest =>
  .fork (fun _ => rest none) fun pid => rest (some pid)

def exec (path : Bytes) (arguments environment : List Bytes) : Program Errno :=
  Routine.exec path arguments environment

def wait (awaited : Awaited) (blocks : Bool) :
    Program (Except Errno (Option (Pid × RawStatus))) := Routine.wait awaited blocks

def kill (target : Int) (signal : Signal) : Program (Except Errno Unit) := Routine.kill target signal

def react (signal : Signal) (disposition : Option Disposition) : Program Disposition :=
  Routine.react signal disposition

def caught (micros : Nat) : Program (List Signal) := Routine.caught micros

def sleep (micros : Nat) : Program Bool := Routine.sleep micros

def identity : Program Identity := Routine.identity

def identityOf (pid : Pid) : Program (Option Identity) := Routine.identityOf pid

def setGroup (pid group : Pid) : Program (Except Errno Unit) := Routine.setGroup pid group

def setSession : Program (Except Errno Unit) := Routine.setSession

def processes : Program (List Pid) := Routine.processes

def clock : Program Nat := Routine.clock

end Program

end Routine

end PidOne.Machine
