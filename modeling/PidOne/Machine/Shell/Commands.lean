import PidOne.Machine.Shell.Redirecting

/-!
# Commands

What the name of a command stands for, how a program takes the shell's place, the actions of
traps, and the copies that a shell makes of itself.
-/

namespace PidOne.Machine.Shell

open Text (Bytes)
open Routine (Program)

structure Flags where
  /-- Its failure is looked at, so that it does not end the shell. -/
  isTested : Bool := false
  /-- The shell has nothing to do behind it. -/
  exits : Bool := false

structure Evaluator where
  tree : Tree → Flags → ShellM Nat
  text : Bytes → Flags → ShellM Nat

/-! ## Names -/

/-- The shell's own commands: whether their errors end the shell, and whether words of theirs
are expanded as assignments are. -/
structure Traits where
  isSpecial : Bool := false
  takesValues : Bool := false

def traits? (name : Bytes) : Option Traits :=
  if [".", ":", "break", "continue", "eval", "exec", "exit", "return", "set", "shift", "times",
      "trap", "unset"].contains name then some { isSpecial := true }
  else if ["export", "readonly", "local"].contains name then
    some { isSpecial := true, takesValues := true }
  else if name == "alias" then some { takesValues := true }
  else if ["[", "bg", "cd", "chdir", "command", "echo", "false", "fg", "getopts", "hash", "jobs",
      "kill", "printf", "pwd", "read", "test", "true", "type", "ulimit", "umask", "unalias",
      "wait"].contains name then some {}
  else none

inductive Found
  | function (body : Tree)
  | builtin (traits : Traits)
  | program

def standardPath : Bytes := "/usr/local/sbin:/usr/local/bin:/usr/sbin:/usr/bin:/sbin:/bin"

def searchPath (s : Shell) : Bytes := (s.get? "PATH").getD ""

def candidates (path name : Bytes) : List Bytes :=
  (path.splitOn ":").map fun directory =>
    if directory.isEmpty then name else directory ++ "/" ++ name

def known? (s : Shell) (name : Bytes) (withFunctions : Bool := true) : Option Found :=
  match s.functions.lookup name, withFunctions with
  | some body, true => some (.function body)
  | _, _ => (traits? name).map .builtin

def isExecutable (status : Status) : Bool :=
  status.kind == .regular && status.mode &&& 73 != 0

/-- The candidates from the first one that can be executed on, or else what is wrong. -/
def searchProgram : List Bytes → Errno → ShellM (Except Errno (List Bytes))
  | [], number => pure (.error number)
  | path :: rest, number => do
    match ← Program.status path with
    | .ok status =>
      if isExecutable status then pure (.ok (path :: rest))
      else searchProgram rest Errno.accessDenied
    | .error e =>
      let isCommon := e = Errno.noEntry || e = Errno.notDirectory
      searchProgram rest (if isCommon then number else e)

def locateProgram (path name : Bytes) : ShellM (Except Errno (List Bytes)) := do
  if name.contains '/' then return .ok [name]
  let found ← searchProgram (candidates path name) Errno.noEntry
  if found.toOption.isSome then
    modify fun s =>
      if s.tracked.contains name then s else { s with tracked := s.tracked ++ [name] }
  pure found

/-! ## Programs -/

def shellPath : Bytes := "/bin/sh"

/-- Try to become a program; a script without a first line of its own is one for the shell. -/
def tryProgram (path : Bytes) (arguments environment : List Bytes) : ShellM Errno := do
  let number ← Program.exec path arguments environment
  if number = Errno.badExecutable && path != shellPath then
    Program.exec shellPath (shellPath :: path :: arguments.drop 1) environment
  else pure number

def tryPrograms (arguments environment : List Bytes) : List Bytes → Errno → ShellM Errno
  | [], number => pure number
  | path :: rest, number => do
    let e ← tryProgram path arguments environment
    let isCommon := e = Errno.noEntry || e = Errno.notDirectory
    tryPrograms arguments environment rest (if isCommon then number else e)

def become {α : Type} (paths arguments : List Bytes) : ShellM α := do
  let number ← tryPrograms arguments (← get).environment paths Errno.noEntry
  let isMissing := [Errno.noEntry, Errno.notDirectory, Errno.tooManyLinks, Errno.nameTooLong]
  modify fun s => { s with status := if isMissing.contains number then 127 else 126 }
  let name := arguments.headD ""
  warn s!"{name}: {errorText number .execute}"
  throw .finish

/-! ## Traps -/

def runActions (e : Evaluator) (status : Nat) : Nat → Nat → ShellM Unit
  | 0, _ => pure ()
  | fuel + 1, number => do
    let s ← get
    let signal : Signal := number
    if !s.arrived.contains signal then runActions e status fuel (number + 1)
    else if s.skip.isSome then set { s with hasNews := true }
    else
      set { s with arrived := s.arrived.filter (· != signal) }
      match s.traps.lookup signal with
      | none => pure ()
      | some action =>
        let _ ← e.text action {}
        modify fun s =>
          if s.skip == some (.function true) then s else { s with status }
      runActions e status fuel (number + 1)

/-- Run the actions for the signals that have come, which leave the status as it is. Actions are
themselves interrupted only by signals that come later. -/
def runTraps (e : Evaluator) : ShellM Unit := do
  let s ← get
  if s.hasNews then
    let status := s.savedStatus.getD s.status
    set { s with savedStatus := some status, hasNews := false }
    runActions e status 64 1
    modify fun after => { after with savedStatus := s.savedStatus }

/-- Microseconds between commands. -/
def pace : Nat := 2

def poll (e : Evaluator) : ShellM Unit := do
  takeSignals pace
  checkInterrupt
  runTraps e

/-! ## The end -/

def popAllSaved : Nat → ShellM Unit
  | 0 => pure ()
  | fuel + 1 => do
    if !(← get).saved.isEmpty then
      popSaved false
      popAllSaved fuel

/-- Undo what was in progress. A status that has been asked for counts now. -/
def settle (raised : Option Raise) : ShellM Unit := do
  modify fun s =>
    let isWanted := raised == some .leave || s.skip == some (.function false)
    { s with
      status := if isWanted then s.savedStatus.getD s.status else s.status
      savedStatus := none, skip := none, loops := 0 }
  popAllSaved (← get).saved.length

def finish {α : Type} (e : Evaluator) (raised : Option Raise) : ShellM α := do
  if raised.isSome then settle raised
  modify fun s => { s with savedStatus := some s.status }
  let s ← get
  let raised ← match s.traps.lookup 0 with
    | none => pure raised
    | some action =>
      set { s with traps := s.traps.filter (·.1 != 0), skip := none }
      try
        let _ ← e.text action {}
        modify fun s => { s with skip := some (.function false) }
        pure raised
      catch r => pure (some r)
  settle raised
  Program.exit (← get).status

def ending {α : Type} (e : Evaluator) (work : ShellM Unit) : ShellM α := fun s _ _ =>
  let stop (s : Shell) : Routine := .exit s.status
  work s (fun s _ => (finish e none : ShellM Unit) s (fun s _ => stop s) fun s _ => stop s)
    fun s r => (finish e (some r) : ShellM Unit) s (fun s _ => stop s) fun s _ => stop s

/-! ## Copies -/

/-- What a shell does first that is a copy of another one. In the background it ignores
interrupts, and the first child of a job has nothing to read there. -/
def becomeCopy (isBackground isFirst : Bool) : ShellM Unit := do
  match (← get).script with
  | some d =>
    let _ ← Program.close d
  | none => pure ()
  modify fun s => { s with isCopy := true, saved := [], jobs := [], script := none }
  clearTraps
  if isBackground then
    [Signal.int, Signal.quit].forM fun signal => do
      let _ ← Program.react signal (some .ignore)
      modify fun s =>
        { s with
          alwaysIgnored := signal :: s.alwaysIgnored, examined := signal :: s.examined }
    if isFirst then
      let _ ← Program.close 0
      let _ ← Program.openFile "/dev/null" { reads := true }

def forkCopy (e : Evaluator) (job : Nat) (isBackground : Bool) (work : ShellM Unit) :
    ShellM Unit := do
  let isFirst := ((← get).job? job).all (·.children.isEmpty)
  match ← Program.fork with
  | none => ending e do
    becomeCopy isBackground isFirst
    work
  | some pid =>
    addChild job pid
    if isBackground then modify fun s => { s with background := some pid }

def readAll (d : Descriptor) : Nat → Bytes → ShellM Bytes
  | 0, seen => pure seen
  | fuel + 1, seen => do
    match ← Program.read d 4096 with
    | .ok "" => pure seen
    | .ok text => readAll d fuel (seen ++ text)
    | .error number =>
      if number = Errno.interrupted then readAll d fuel seen else pure seen

def substitute (e : Evaluator) : Option Tree → ShellM Bytes
  | none => pure ""
  | some tree => do
    let (r, w) ← Program.openPipe
    let job ← newJob
    forkCopy e job false do
      let _ ← Program.close r
      if w != 1 then
        let _ ← Program.assign w 1
        let _ ← Program.close w
      let _ ← e.tree tree { exits := true }
    let _ ← Program.close w
    let text ← readAll r Reader.enough ""
    let _ ← Program.close r
    let status ← awaitForeground job
    modify fun s => { s with substituted := status }
    pure text

end PidOne.Machine.Shell
