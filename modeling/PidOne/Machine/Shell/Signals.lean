import PidOne.Machine.Shell.State

/-!
# Signals in scripts

The names by which scripts give signals, the words in which a shell reports one, and what a shell
does with those that it catches.
-/

namespace PidOne.Machine.Shell

open Text (Bytes)
open Routine (Program)

/-- The name of a signal in scripts. The stack fault and two more have none but their number. -/
def nameOf (s : Signal) : Bytes :=
  if s = 0 then "EXIT"
  else if s = 34 then "RTMIN"
  else if s = 64 then "RTMAX"
  else if 34 < s && s < 50 then s!"RTMIN+{s - 34}"
  else if 50 ≤ s && s < 64 then s!"RTMAX-{64 - s}"
  else if s = 16 then "16"
  else match s.standardName? with
    | some name => String.ofList (name.toList.drop 3)
    | none => toString s

def isNumber (text : Bytes) : Bool := !text.isEmpty && text.toList.all Char.isDigit

/-- The signal of a number or of a name from a least one on, in any case. -/
def signalFrom? (least : Nat) (text : Bytes) : Option Signal :=
  if isNumber text then
    match text.toNat? with
    | some n => if n ≤ 64 then some n else none
    | none => none
  else
    let name := text.toUpper
    ((List.range 65).find? fun n => least ≤ n && nameOf n == name).map Int.ofNat

def report? (s : Signal) : Option Bytes :=
  match s with
  | 1 => some "Hangup"
  | 3 => some "Quit"
  | 4 => some "Illegal instruction"
  | 5 => some "Trace/breakpoint trap"
  | 6 => some "Aborted"
  | 7 => some "Bus error"
  | 8 => some "Floating point exception"
  | 9 => some "Killed"
  | 10 => some "User defined signal 1"
  | 11 => some "Segmentation fault"
  | 12 => some "User defined signal 2"
  | 14 => some "Alarm clock"
  | 15 => some "Terminated"
  | 16 => some "Stack fault"
  | 24 => some "CPU time limit exceeded"
  | 25 => some "File size limit exceeded"
  | 26 => some "Virtual timer expired"
  | 27 => some "Profiling timer expired"
  | 29 => some "I/O possible"
  | 30 => some "Power failure"
  | 31 => some "Bad system call"
  | 32 => some "Unknown signal 32"
  | 33 => some "Unknown signal 33"
  | s => if s.isRealtime then some s!"Real-time signal {s - 34}" else none

def codeOf (raw : RawStatus) : Nat :=
  match ExitStatus.ofRaw? 0 raw with
  | some ⟨_, some code, _⟩ => code.toNat
  | some ⟨_, none, some signal⟩ => 128 + signal.toNat
  | _ => 0

/-- Note the signals that have been caught. An interrupt without a trap ends the shell as soon as
nothing forbids it; the end of a child is no news by itself. -/
def takeSignals (micros : Nat) : ShellM Unit := do
  let signals ← Program.caught micros
  if !signals.isEmpty then
    modify fun s => signals.foldl (fun (s : Shell) signal =>
      if signal = Signal.child && (s.traps.lookup signal).isNone then s
      else
        { s with
          arrived := signal :: s.arrived, hasNews := true
          isInterrupted := s.isInterrupted ||
            (signal = Signal.int && (s.traps.lookup signal).isNone) }) s

def checkInterrupt : ShellM Unit := do
  let s ← get
  if s.isInterrupted then
    set { s with isInterrupted := false }
    let _ ← Program.react Signal.int (some .default)
    let self ← Program.identity
    let _ ← Program.kill self.pid Signal.int

/-- Note whether a signal was ignored before the shell came to know it. -/
def examine (signal : Signal) : ShellM Unit := do
  let s ← get
  if !s.examined.contains signal then
    let disposition ← Program.react signal none
    let isIgnored := disposition == .ignore
    set { s with
      examined := signal :: s.examined
      alwaysIgnored := if isIgnored then signal :: s.alwaysIgnored else s.alwaysIgnored }

def setSignal (signal : Signal) : ShellM Unit := do
  if signal != 0 then examine signal
  let s ← get
  if signal = 0 || s.alwaysIgnored.contains signal then return
  let disposition : Disposition := match s.traps.lookup signal with
    | some "" => .ignore
    | some _ => .catch
    | none => if signal = Signal.int && s.catchesInterrupt && !s.isCopy then .catch else .default
  let disposition := if signal = Signal.child then .catch else disposition
  let _ ← Program.react signal (some disposition)

/-- Give a signal an action, nothing at all, or its default. -/
def setTrap (action : Option Bytes) (signal : Signal) : ShellM Unit := do
  modify fun s =>
    let others := s.traps.filter (·.1 != signal)
    { s with traps := match action with
      | some text => (signal, text) :: others
      | none => others }
  setSignal signal

def hasTraps (s : Shell) : Bool := s.traps.any fun t => !t.2.isEmpty

/-- A copy of a shell has no traps but those that ignore. -/
def clearTraps : ShellM Unit := do
  let s ← get
  let cleared := s.traps.filter fun t => !t.2.isEmpty
  set { s with traps := s.traps.filter (·.2.isEmpty), arrived := [], hasNews := false }
  cleared.forM fun t => setSignal t.1

/-! ## Jobs -/

def Job.isDone (j : Job) : Bool := j.children.all (·.2.isSome)

def Job.status (j : Job) : Nat := ((j.children.getLast?).bind (·.2)).elim 0 codeOf

def job? (s : Shell) (number : Nat) : Option Job := s.jobs.find? (·.number == number)

/-- The latest job whose last child has a PID. -/
def jobOf? (s : Shell) (pid : Pid) : Option Job :=
  (s.jobs.filter fun j => (j.children.getLast?).any (·.1 == pid)).foldl (fun best j =>
    match best with
    | some b => if b.age < j.age then some j else some b
    | none => some j) none

def removeJob (number : Nat) : ShellM Unit :=
  modify fun s => { s with jobs := s.jobs.filter (·.number != number) }

/-- Make a job. It takes the least number that is free, or that belongs to a job which is done and
whose status has been asked for. -/
def newJob : ShellM Nat := do
  let s ← get
  let isFree (number : Nat) : Bool :=
    match s.job? number with
    | none => true
    | some j => j.isDone && j.isAskedFor
  let number := ((List.range (s.jobs.length + 1)).map (· + 1)).find? isFree
  let number := number.getD (s.jobs.length + 1)
  set { s with
    jobs := { number, age := s.nextAge } :: s.jobs.filter (·.number != number)
    nextAge := s.nextAge + 1 }
  pure number

def modifyJob (number : Nat) (f : Job → Job) : ShellM Unit :=
  modify fun s => { s with jobs := s.jobs.map fun j => if j.number == number then f j else j }

def addChild (number : Nat) (pid : Pid) : ShellM Unit :=
  modifyJob number fun j => { j with children := j.children ++ [(pid, none)] }

/-- Note how a child has ended; that of an awaited job is reported if a signal has ended it. -/
def noteEnd (pid : Pid) (raw : RawStatus) (awaited : Option Nat) : ShellM Unit := do
  let s ← get
  match s.jobs.find? fun j => j.children.any fun c => c.1 == pid && c.2.isNone with
  | none => pure ()
  | some j =>
    modifyJob j.number fun j =>
      { j with children := j.children.map fun c => if c.1 == pid then (pid, some raw) else c }
    if awaited == some j.number && !raw.hasExited then
      match report? raw.termination.toInt with
      | some text => put 2 (text ++ "\n")
      | none => pure ()

def collect (awaited : Option Nat) : Nat → ShellM Unit
  | 0 => pure ()
  | fuel + 1 => do
    match ← Program.wait .any false with
    | .ok (some (pid, raw)) =>
      noteEnd pid raw awaited
      collect awaited fuel
    | _ => pure ()

/-- Wait until a job is done, whatever signals come. -/
def awaitJob (number : Nat) : Nat → ShellM Unit
  | 0 => pure ()
  | fuel + 1 => do
    if ((← get).job? number).all (·.isDone) then collect none Reader.enough else
    match ← Program.wait .any true with
    | .ok (some (pid, raw)) =>
      noteEnd pid raw (some number)
      awaitJob number fuel
    | .ok none => awaitJob number fuel
    | .error e =>
      if e = Errno.noChild then pure () else
      takeSignals 0
      awaitJob number fuel

def awaitForeground (number : Nat) : ShellM Nat := do
  awaitJob number Reader.enough
  let status := ((← get).job? number).elim 0 (·.status)
  removeJob number
  takeSignals 0
  checkInterrupt
  pure status

/-- Wait until a job is done, or all are, or a signal comes that has an action: its answer is
false then. -/
def awaitOrSignal (number : Option Nat) : Nat → ShellM Bool
  | 0 => pure true
  | fuel + 1 => do
    let s ← get
    let isDone : Bool := match number with
      | some n => (s.job? n).all (·.isDone)
      | none => s.jobs.all (·.isDone)
    if isDone then
      collect number Reader.enough
      return true
    takeSignals 0
    checkInterrupt
    if (← get).hasNews then
      collect number Reader.enough
      return false
    match ← Program.wait .any true with
    | .ok (some (pid, raw)) =>
      noteEnd pid raw number
      awaitOrSignal number fuel
    | .ok none => awaitOrSignal number fuel
    | .error e => if e = Errno.noChild then pure true else awaitOrSignal number fuel

end PidOne.Machine.Shell
