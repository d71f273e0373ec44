import PidOne.Machine.Shell.Evaluation

/-!
# The shell as a program

How a shell begins: what it takes over from its environment, and what its arguments ask for.
-/

namespace PidOne.Machine.Shell

open Text (Bytes)
open Routine (Program)

def importVariables (environment : List Bytes) (parent : Pid) : List Variable :=
  let given := environment.filterMap fun text =>
    let name := text.toList.takeWhile (· != '=')
    match text.toList.drop name.length with
    | _ :: value =>
      if isName (String.ofList name) then
        some { name := String.ofList name, value := some (String.ofList value), isExported := true
               : Variable }
      else none
    | [] => none
  let own : List (Bytes × Bytes) :=
    [("IFS", " \t\n"), ("OPTIND", "1"), ("PS1", "# "), ("PS2", "> "), ("PS4", "+ "),
      ("PPID", toString parent), ("PATH", standardPath)]
  let isFixed (name : Bytes) : Bool := ["IFS", "OPTIND", "PPID"].contains name
  own.foldl (fun vs (name, value) =>
    match vs.find? (·.name == name) with
    | none => vs ++ [{ name, value := some value }]
    | some v =>
      if isFixed name then
        vs.map fun w => if w.name == name then { v with value := some value } else w
      else vs) given

def findDirectory : ShellM Unit := do
  let here ← Program.status "."
  let given := (← get).get? "PWD"
  let directory ← match given, here with
    | some path, .ok here =>
      if path.startsWith "/" then do
        match ← Program.status path with
        | .ok there =>
          if there.identity == here.identity then pure path else Program.directory
        | .error _ => Program.directory
      else Program.directory
    | _, _ => Program.directory
  modify fun s => { s with directory }
  assign "PWD" (some directory) true

/-- What is run: a text, the commands of a script, or those on standard input. -/
def runInput (e : Evaluator) (text : Option Bytes) : ShellM Unit := do
  let s ← get
  match text with
  | some text =>
    let _ ← e.text text { exits := !s.has 's' }
  | none => pure ()
  if s.has 's' || text.isNone then
    let d := s.script.getD 0
    let _ ← runScript e d Reader.enough { text := [], isWhole := false } "" 0

def takeArguments (arguments : List Bytes) : ShellM (Option Bytes) := do
  let (rest, x) ← changeOptions true (arguments.length + 1) arguments {}
  if rest.isEmpty then
    if x.takesCommand then fail "-c requires an argument"
    setOption 's' true
  if (← get).has 'm' then
    warn "can't access tty; job control turned off"
    setOption 'm' false
  let named (rest : List Bytes) : ShellM Unit :=
    modify fun s =>
      match rest with
      | name :: positional => { s with name, positional }
      | [] => s
  match x.takesCommand, rest with
  | true, text :: rest =>
    named rest
    pure (some text)
  | true, [] => pure none
  | false, rest =>
    if (← get).has 's' then modify fun s => { s with positional := rest }
    else
      let d ← openScript (rest.headD "")
      modify fun s => { s with script := some d }
      named rest
    pure none

def deepestCommand : Nat := 40000

def main (start : Start) : ShellM Unit := do
  let self ← Program.identity
  modify fun s =>
    { s with
      pid := self.pid, name := start.called
      store := importVariables start.environment self.parent }
  findDirectory
  let e := evaluator deepestCommand
  ending e do
    setSignal Signal.child
    let text ← takeArguments start.operands
    modify fun s => { s with catchesInterrupt := text.isSome || !s.has 's' }
    setSignal Signal.int
    runInput e text

end Shell

def runShell (start : Start) : Routine :=
  (Shell.main start) { pid := 0, name := "" } (fun s _ => .exit s.status) fun s _ => .exit s.status

end PidOne.Machine
