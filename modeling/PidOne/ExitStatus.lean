import PidOne.Signal

/-!
# Exit statuses

How a process ended, decoded from the 32-bit word with which the kernel reports it, and the
verdict on a phase that is drawn from it.
-/

namespace PidOne

abbrev Pid := Nat

structure ExitStatus where
  pid : Pid
  code : Option Int
  signal : Option Signal
  deriving DecidableEq, Repr

/-- The verdict on a phase. The exit code itself is dropped. -/
structure Outcome where
  exitedNormally : Bool
  success : Bool
  deriving DecidableEq, Repr

/-- The outcome of a command that never ran or whose status was lost. -/
def Outcome.notStarted : Outcome := ⟨false, false⟩

/-- The word with which the kernel reports a change of a child. -/
abbrev RawStatus := Int32

namespace RawStatus

/-- The low seven bits: zero after an exit, else a signal or a mark for no termination. -/
def termination (raw : RawStatus) : Int32 := raw &&& 0x7f

def hasExited (raw : RawStatus) : Bool := raw.termination == 0

/-- Adding one turns the mark for no termination, 127, into the least signed byte. -/
def wasSignaled (raw : RawStatus) : Bool := ((raw.termination + 1).toInt8 >>> 1) > 0

def exitCode (raw : RawStatus) : Int32 := (raw >>> 8) &&& 0xff

end RawStatus

namespace ExitStatus

/-- The status in a report, or nothing when the report is not of a termination. -/
def ofRaw? (pid : Pid) (raw : RawStatus) : Option ExitStatus :=
  if raw.hasExited then some ⟨pid, some raw.exitCode.toInt, none⟩
  else if raw.wasSignaled then some ⟨pid, none, some raw.termination.toInt⟩
  else none

def exitedNormally (s : ExitStatus) : Bool := s.code.isSome

def success (s : ExitStatus) : Bool := s.code == some 0

def outcome (s : ExitStatus) : Outcome := ⟨s.exitedNormally, s.success⟩

/-- An exit code wins over a signal. -/
def display (s : ExitStatus) : String :=
  match s.code, s.signal with
  | some code, _ => s!"exit status {code}"
  | none, some signal => s!"killed by {signal.name}"
  | none, none => "unknown status"

end ExitStatus

end PidOne
