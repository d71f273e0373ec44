import PidOne.Machine.Routine
import PidOne.Machine.Shell.Grammar

/-!
# Shells

What a shell remembers between commands, and the monad in which it works: a part of its work
answers, or raises what ends the parts around it.
-/

namespace PidOne.Machine

open Text (Bytes)
open Routine (Program)

namespace Shell

structure Variable where
  name : Bytes
  value : Option Bytes
  isExported : Bool := false
  isConstant : Bool := false

structure Job where
  number : Nat
  /-- The children of the job, each with how it has ended. -/
  children : List (Pid × Option RawStatus) := []
  isAskedFor : Bool := false
  /-- Later jobs have greater numbers. -/
  age : Nat := 0

/-- What ends the commands around it. -/
inductive Skip
  | break
  | continue
  /-- The end of a function, with a status of its own or not. -/
  | function (hasStatus : Bool)
  deriving DecidableEq, Repr

inductive Raise
  /-- A message has been given. -/
  | error
  /-- There is nothing left to do. -/
  | finish
  /-- The shell has been told to end. -/
  | leave
  deriving DecidableEq, Repr

/-- A descriptor that redirections have changed, and the copy of what it was. -/
structure Saved where
  descriptor : Descriptor
  copy : Option Descriptor

end Shell

structure Shell where
  /-- The PID of the first of the shells that have made each other. -/
  pid : Pid
  name : Bytes
  positional : List Bytes := []
  store : List Shell.Variable := []
  functions : List (Bytes × Shell.Tree) := []
  tracked : List Bytes := []
  aliases : List (Bytes × Bytes) := []
  status : Nat := 0
  /-- The status before the action of a trap, or that the shell is to end with. -/
  savedStatus : Option Nat := none
  /-- The status of the last substitution, which a command without words takes over. -/
  substituted : Nat := 0
  options : List Char := []
  background : Option Pid := none
  jobs : List Shell.Job := []
  nextAge : Nat := 1
  /-- Actions for signals; an empty one ignores. The action for 0 is run at the exit. -/
  traps : List (Signal × Bytes) := []
  /-- The signals of which the shell knows what they did when it was started. -/
  examined : List Signal := [Signal.child]
  /-- Signals that were ignored when the shell was started stay so. -/
  alwaysIgnored : List Signal := []
  catchesInterrupt : Bool := false
  /-- Caught signals whose actions are still to be run, the last one first. -/
  arrived : List Signal := []
  /-- Whether a signal has come since actions have last been looked for. -/
  hasNews : Bool := false
  isInterrupted : Bool := false
  skip : Option Shell.Skip := none
  skipCount : Nat := 0
  loops : Nat := 0
  depth : Nat := 0
  line : Nat := 0
  command : Option Bytes := none
  /-- The variables that functions hide, those of the innermost one first. -/
  hidden : List (List Shell.Variable) := []
  /-- What redirections have changed, the innermost first. -/
  saved : List (List Shell.Saved) := []
  isCopy : Bool := false
  /-- The directory that the shell is in, as it has been entered. -/
  directory : Bytes := "/"
  script : Option Descriptor := none
  /-- Where the reading of options goes on: the argument, and the place in it. -/
  optionIndex : Nat := 1
  optionOffset : Option Nat := none
  /-- What the shell's own command has written and nobody has got yet. -/
  written : Bytes := ""

/-- A part of a shell's work: given what follows its answer, and what follows what it raises, the
whole. -/
def ShellM (α : Type) : Type :=
  Shell → (Shell → α → Routine) → (Shell → Shell.Raise → Routine) → Routine

namespace ShellM

instance : Monad ShellM where
  pure a := fun s ok _ => ok s a
  bind x f := fun s ok raised => x s (fun s a => f a s ok raised) raised

instance : MonadStateOf Shell ShellM where
  get := fun s ok _ => ok s s
  set s := fun _ ok _ => ok s ()
  modifyGet f := fun s ok _ => ok (f s).2 (f s).1

instance : MonadExceptOf Shell.Raise ShellM where
  throw r := fun s _ raised => raised s r
  tryCatch x handle := fun s ok raised => x s ok fun s r => handle r s ok raised

instance : MonadLift Program ShellM where
  monadLift x := fun s ok _ => x fun a => ok s a

end ShellM

namespace Shell

/-! ## Variables -/

def named? (s : Shell) (name : Bytes) : Option Variable :=
  s.store.find? (·.name == name)

def get? (s : Shell) (name : Bytes) : Option Bytes := (s.named? name).bind (·.value)

def has (s : Shell) (option : Char) : Bool := s.options.contains option

def setVariable (s : Shell) (v : Variable) : Shell :=
  if s.store.any (·.name == v.name) then
    { s with store := s.store.map fun w => if w.name == v.name then v else w }
  else { s with store := s.store ++ [v] }

def environment (s : Shell) : List Bytes :=
  s.store.filterMap fun v =>
    if v.isExported then v.value.map fun value => v.name ++ "=" ++ value else none

/-! ## Messages -/

/-- Write to a descriptor as a whole; nobody cares whether it succeeds. -/
def put (d : Descriptor) (text : Bytes) : ShellM Unit := do
  if !text.isEmpty then
    let _ ← Program.write d text

def warn (message : Bytes) : ShellM Unit := do
  let s ← get
  let command := match s.command with
    | some command => command ++ ": "
    | none => ""
  put 2 s!"{s.name}: {s.line}: {command}{message}\n"

def fail {α : Type} (message : Bytes) : ShellM α := do
  warn message
  modify fun s => { s with status := 2 }
  throw .error

def print (text : Bytes) : ShellM Unit := modify fun s => { s with written := s.written ++ text }

/-! ## Assignments -/

/-- Give a variable a value, or none, unless it is constant. -/
def assign (name : Bytes) (value : Option Bytes) (exports : Bool := false) : ShellM Unit := do
  let s ← get
  let exports := exports || s.has 'a'
  match s.named? name with
  | some v =>
    if v.isConstant then fail s!"{name}: is read only"
    set (s.setVariable { v with value, isExported := v.isExported || exports })
  | none => set (s.setVariable { name, value, isExported := exports })
  if name == "PATH" then modify fun s => { s with tracked := [] }
  if name == "OPTIND" then
    let index := (value.bind (·.toNat?)).getD 1
    modify fun s => { s with optionIndex := if index = 0 then 1 else index, optionOffset := none }

def unset (name : Bytes) : ShellM Unit := do
  let s ← get
  if (s.named? name).any (·.isConstant) then fail s!"{name}: is read only"
  set { s with store := s.store.filter (·.name != name) }

/-- The name under which the options are kept for the end of a function. -/
def optionsName : Bytes := "-"

/-- Keep a variable, or the options, as they are now for the end of the innermost function. -/
def hide (name : Bytes) : ShellM Unit := do
  let s ← get
  match s.hidden with
  | [] => pure ()
  | innermost :: rest =>
    if innermost.any (·.name == name) then pure ()
    else
      let v := if name == optionsName then { name, value := some (String.ofList s.options) }
        else (s.named? name).getD { name, value := none }
      set { s with hidden := (v :: innermost) :: rest }

def pushHidden : ShellM Unit := modify fun s => { s with hidden := [] :: s.hidden }

def popHidden : ShellM Unit := do
  let s ← get
  match s.hidden with
  | [] => pure ()
  | innermost :: rest =>
    let s := { s with hidden := rest }
    set <| innermost.foldl (fun (s : Shell) (v : Variable) =>
      if v.name == optionsName then { s with options := (v.value.getD "").toList }
      else if v.value.isNone && !v.isExported && !v.isConstant then
        { s with store := s.store.filter (·.name != v.name) }
      else s.setVariable v) s

end Shell

end PidOne.Machine
