import PidOne.Machine.Shell.Options

/-!
# Commands for jobs and signals

The shell's own commands that start from its children or from signals.
-/

namespace PidOne.Machine.Shell

open Text (Bytes)
open Routine (Program)

/-! ## Jobs -/

/-- All jobs, the current one first. -/
def byAge (s : Shell) : List Job := s.jobs.mergeSort fun a b => b.age ≤ a.age

def findJob (name : Bytes) : ShellM Job := do
  let jobs := (← get).byAge
  let orFail (j : Option Job) (message : Bytes) : ShellM Job :=
    match j with
    | some j => pure j
    | none => fail message
  match name.toList with
  | ['%'] => orFail jobs.head? "No current job"
  | ['%', '+'] => orFail jobs.head? "No current job"
  | ['%', '%'] => orFail jobs.head? "No current job"
  | ['%', '-'] => orFail jobs[1]? "No previous job"
  | '%' :: cs =>
    orFail (jobs.find? fun j => cs.all Char.isDigit && j.number = Text.readDigits 10 cs)
      s!"No such job: {name}"
  | _ => fail s!"No such job: {name}"

def jobState (j : Job) : Bytes :=
  match (j.children.getLast?).bind (·.2) with
  | some raw =>
    if !j.isDone then "Running"
    else if raw.hasExited then
      let code := codeOf raw
      if code = 0 then "Done" else s!"Done({code})"
    else ((report? raw.termination.toInt).getD
      (if raw.termination.toInt = 2 then "Interrupt" else "Broken pipe"))
  | none => "Running"

/-- Show a job, and forget it if it is done. -/
def showJob (letter : Option Char) (j : Job) : ShellM Unit := do
  let jobs := (← get).byAge
  let pid := (j.children.head?).elim 0 (·.1)
  if letter == some 'p' then print s!"{pid}\n"
  else
    let mark := if jobs.head?.any (·.number == j.number) then "+"
      else if jobs[1]?.any (·.number == j.number) then "-" else " "
    let front := s!"[{j.number}] {mark} " ++ if letter == some 'l' then s!"{pid} " else ""
    let text := front ++ jobState j
    let blanks (n : Nat) : Bytes := String.ofList (List.replicate n ' ')
    print (text ++ blanks (max 1 (33 - text.length)))
    if letter == some 'l' then
      print "\n"
      (j.children.drop 1).forM fun c => do
        let text := blanks 6 ++ s!"{c.1} "
        print (" |\n" ++ text ++ blanks (max 1 (33 - text.length)) ++ "\n")
    else print (String.join ((j.children.drop 1).map fun _ => " | ") ++ "\n")
    if j.isDone then removeJob j.number

def jobsCommand (arguments : List Bytes) : ShellM Nat := do
  let (letters, names) ← readOptions [('l', false), ('p', false)] arguments
  let letter := letters.getLast?.map (·.1)
  if names.isEmpty then
    collect none Reader.enough
    (← get).byAge.forM (showJob letter)
  else names.forM fun name => do showJob letter (← findJob name)
  pure 0

/-- No job is ever stopped under the shell's control. -/
def resumeCommand (arguments : List Bytes) : ShellM Nat := do
  let name := (← operands arguments).headD "%"
  let _ ← findJob name
  fail s!"job {name} not created under job control"

/-! ## Waiting -/

def cutShort : ShellM Nat := do
  pure (128 + ((← get).arrived.headD 0).toNat)

def waitForEach : List Bytes → Nat → ShellM Nat
  | [], status => pure status
  | name :: rest, status => do
    let job ← if name.startsWith "%" then do pure (some (← findJob name))
      else do
        let pid ← number name
        pure ((← get).jobOf? pid)
    match job with
    | none => waitForEach rest status
    | some j =>
      if ← awaitOrSignal (some j.number) Reader.enough then
        modifyJob j.number fun j => { j with isAskedFor := true }
        waitForEach rest (((← get).job? j.number).elim status (·.status))
      else cutShort

def waitCommand (arguments : List Bytes) : ShellM Nat := do
  match ← operands arguments with
  | [] =>
    if ← awaitOrSignal none Reader.enough then
      modify fun s => { s with jobs := s.jobs.map fun j => { j with isAskedFor := true } }
      pure 0
    else cutShort
  | names => waitForEach names 127

/-! ## Signals -/

def usageOfKill : Bytes :=
  "Usage: kill [-s sigspec | -signum | -sigspec] [pid | job]... or\nkill -l [exitstatus]"

def targetOf (name : Bytes) : ShellM Int := do
  match name.toList with
  | '%' :: _ =>
    let j ← findJob name
    pure (-((j.children.head?).elim (0 : Int) (·.1)))
  | '-' :: rest =>
    let n ← number (String.ofList rest)
    pure (-(n : Int))
  | _ =>
    let n ← number name
    pure n

def sendToAll (signal : Signal) (names : List Bytes) : ShellM Nat := do
  let codes ← names.mapM fun name => do
    let target ← targetOf name
    match ← Program.kill target signal with
    | .ok _ => pure 0
    | .error number =>
      warn (number.message ++ "\n")
      pure 1
  pure (codes.foldl max 0)

def listSignals : List Bytes → ShellM Nat
  | [] => do
    print "0\n"
    ((List.range 64).map (· + 1)).forM fun (n : Nat) => print (nameOf n ++ "\n")
    pure 0
  | text :: _ => do
    let n ← number text
    let signal := if n > 128 then n - 128 else n
    if 0 < signal && signal < 65 then
      print (nameOf signal ++ "\n")
      pure 0
    else fail s!"invalid signal number or exit status: {text}"

/-- What the options of `kill` ask for: a list, or a signal. -/
def readSignal : List (Char × Bytes) → ShellM (Bool × Option Signal)
  | [] => pure (false, none)
  | (letter, value) :: rest => do
    let signal ← if letter == 's' then
        match signalFrom? 1 value with
        | some signal => pure (some signal)
        | none => fail s!"invalid signal number or name: {value}"
      else pure none
    let (isList, later) ← readSignal rest
    pure (isList || letter == 'l', later.or signal)

def killCommand (arguments : List Bytes) : ShellM Nat := do
  match arguments with
  | [] => fail usageOfKill
  | first :: rest =>
    let signal := if first.startsWith "-" then
        signalFrom? 1 (String.ofList (first.toList.drop 1)) else none
    let (isList, signal, names) ← match signal with
      | some signal => pure (false, some signal, rest)
      | none => do
        if first.startsWith "-" then
          let (letters, names) ← readOptions [('l', false), ('s', true)] arguments
          let (isList, signal) ← readSignal letters
          pure (isList, signal, names)
        else pure (false, none, arguments)
    let signal := if isList then signal else some (signal.getD Signal.term)
    if (signal.isNone || names.isEmpty) != isList then fail usageOfKill
    if isList then listSignals names else sendToAll (signal.getD Signal.term) names

def listTraps : ShellM Unit := do
  let sorted := (← get).traps.mergeSort fun a b => a.1 ≤ b.1
  sorted.forM fun (signal, action) => print s!"trap -- {singleQuote action} {nameOf signal}\n"

def setTraps (action : Option Bytes) : List Bytes → ShellM Nat
  | [] => pure 0
  | name :: rest => do
    match signalFrom? 0 name with
    | none =>
      put 2 s!"trap: {name}: bad trap\n"
      pure 1
    | some signal =>
      setTrap (if action == some "-" then none else action) signal
      setTraps action rest

def trapCommand (arguments : List Bytes) : ShellM Nat := do
  match ← operands arguments with
  | [] =>
    listTraps
    pure 0
  | [name] => setTraps none [name]
  | first :: rest =>
    let isSignal := isNumber first && (signalFrom? 0 first).isSome
    if isSignal then setTraps none (first :: rest) else setTraps (some first) rest

end PidOne.Machine.Shell
