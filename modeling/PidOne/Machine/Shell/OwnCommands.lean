import PidOne.Machine.Shell.Builtins
import PidOne.Machine.Shell.JobCommands

/-!
# The shell's own commands and functions

The commands that run others, the choice among all of the shell's own, and functions.
-/

namespace PidOne.Machine.Shell

open Text (Bytes)
open Routine (Program)

/-- Go on with the text after a skip that ends only functions and files. -/
def endFunctionSkip : ShellM Unit :=
  modify fun s =>
    match s.skip with
    | some (.function _) => { s with skip := none }
    | _ => s

def findFile (name : Bytes) : ShellM Bytes := do
  if name.contains '/' then return name
  let rec search : List Bytes → ShellM Bytes
    | [] => fail s!"{name}: not found"
    | path :: rest => do
      match ← Program.status path with
      | .ok status => if status.kind == .regular then pure path else search rest
      | .error _ => search rest
  search (candidates (← get).searchPath name)

/-- Run the commands of a script that is read from a descriptor, block after block. -/
def runScript (e : Evaluator) (d : Descriptor) :
    Nat → Reading → Bytes → Nat → ShellM Nat
  | 0, _, _, status => pure status
  | fuel + 1, r, shown, status => do
    let s ← get
    match readLine { r with aliases := s.aliases } with
    | .error .more =>
      match ← Program.read d 8192 with
      | .ok "" => runScript e d fuel { r with isWhole := true } shown status
      | .ok text =>
        let more := String.ofList (text.toList.filter (· != '\x00'))
        runScript e d fuel { r with text := r.text ++ more.toList } (shown ++ more) status
      | .error number =>
        if number = Errno.interrupted then
          takeSignals 0
          checkInterrupt
          runScript e d fuel r shown status
        else runScript e d fuel { r with isWhole := true } shown status
    | .error (.fault line message) =>
      modify fun s => { s with line }
      fail s!"Syntax error: {message}"
    | .ok (line, after) =>
      let length := shown.length - after.text.length
      let shown ← if s.has 'v' then do
          put 2 (String.ofList (shown.toList.take length))
          pure (String.ofList (shown.toList.drop length))
        else pure (String.ofList (shown.toList.drop length))
      match line with
      | .finish => pure status
      | .blank => runScript e d fuel after shown status
      | .commands tree _ =>
        let status ← e.tree tree {}
        if (← get).skip.isSome then
          endFunctionSkip
          pure status
        else runScript e d fuel after shown status

def openScript (path : Bytes) : ShellM Descriptor := do
  match ← Program.openFile path { reads := true } with
  | .error number =>
    fail s!"cannot open {path}: {errorText number .open_}"
  | .ok d =>
    if d ≥ ownDescriptors then pure d
    else match ← Program.duplicate d ownDescriptors with
      | .ok copy => do
        let _ ← Program.close d
        pure copy
      | .error _ => pure d

def sourceCommand (e : Evaluator) (arguments : List Bytes) : ShellM Nat := do
  match ← operands arguments with
  | [] => pure 0
  | name :: _ =>
    let path ← findFile name
    let d ← openScript path
    modify fun s => { s with command := some path }
    let answer ← try
        let status ← runScript e d Reader.enough { text := [], isWhole := false } "" 0
        pure (Except.ok status)
      catch r => pure (Except.error r)
    let _ ← Program.close d
    match answer with
    | .ok status => pure status
    | .error r => throw r

def evalCommand (e : Evaluator) (arguments : List Bytes) (flags : Flags) : ShellM Nat := do
  if arguments.isEmpty then pure 0
  else e.text (" ".intercalate arguments) { isTested := flags.isTested }

def exitCommand (arguments : List Bytes) : ShellM Nat := do
  match arguments with
  | [] => pure ()
  | a :: _ =>
    let n ← number a
    modify fun s => { s with savedStatus := some n }
  throw .leave

def returnCommand (arguments : List Bytes) : ShellM Nat := do
  match arguments with
  | [] =>
    modify fun s => { s with skip := some (.function false) }
    pure (← get).status
  | a :: _ =>
    let n ← number a
    modify fun s => { s with skip := some (.function true) }
    pure n

def breakCommand (skip : Skip) (arguments : List Bytes) : ShellM Nat := do
  let count ← match arguments with
    | [] => pure 1
    | a :: _ =>
      let n ← number a
      if n = 0 then fail s!"Illegal number: {a}"
      pure n
  modify fun s =>
    let count := min count s.loops
    if count > 0 then { s with skip := some skip, skipCount := count } else s
  pure 0

def execCommand (arguments : List Bytes) : ShellM Nat := do
  match ← operands arguments with
  | [] => pure 0
  | name :: rest =>
    let path := (← get).searchPath
    become (if name.contains '/' then [name] else candidates path name) (name :: rest)

def describe (name : Bytes) (isVerbose : Bool) (path : Bytes) : ShellM Nat := do
  let s ← get
  let say (text short : Bytes) : ShellM Nat := do
    print ((if isVerbose then name ++ text else short) ++ "\n")
    pure 0
  if keywords.contains name then say " is a shell keyword" name
  else match s.aliases.lookup name with
    | some value =>
      if isVerbose then say s!" is an alias for {value}" ""
      else
        print "alias "
        showAlias name value
        pure 0
    | none =>
      match s.known? name with
      | some (.function _) => say " is a shell function" name
      | some (.builtin traits) =>
        say (if traits.isSpecial then " is a special shell builtin" else " is a shell builtin") name
      | _ =>
        let isTracked := s.tracked.contains name
        let found ← if name.contains '/' then do
            pure ((← Program.status name).map fun _ => [name])
          else searchProgram (candidates path name) Errno.noEntry
        match found with
        | .ok paths =>
          let place := paths.headD name
          say ((if isTracked then " is a tracked alias for " else " is ") ++ place) place
        | .error _ =>
          if isVerbose then print s!"{name}: not found\n"
          pure 127

def commandCommand (arguments : List Bytes) : ShellM Nat := do
  let (letters, names) ← readOptions [('p', false), ('v', false), ('V', false)] arguments
  let has (letter : Char) : Bool := letters.any (·.1 == letter)
  match names with
  | [] => pure 0
  | name :: _ =>
    let path := (← get).searchPath
    if has 'v' || has 'V' then describe name (has 'V') (if has 'p' then standardPath else path)
    else pure 0

def typeCommand (arguments : List Bytes) : ShellM Nat := do
  let codes ← arguments.mapM fun name => do describe name true (← get).searchPath
  pure (codes.foldl max 0)

def hashCommand (arguments : List Bytes) : ShellM Nat := do
  let (letters, names) ← readOptions [('r', false)] arguments
  if !letters.isEmpty then
    modify fun s => { s with tracked := [] }
    return 0
  if names.isEmpty then
    (← get).tracked.forM fun name => do
      let s ← get
      match ← searchProgram (candidates s.searchPath name) Errno.noEntry with
      | .ok (path :: _) => print (path ++ "\n")
      | _ => pure ()
    return 0
  let codes ← names.mapM fun name => do
    let s ← get
    if (s.known? name).isSome then pure 0
    else match ← locateProgram s.searchPath name with
      | .ok _ => pure 0
      | .error number =>
        warn s!"{name}: {errorText number .execute}"
        pure 1
  pure (codes.foldl max 0)

def printfCommand (arguments : List Bytes) : ShellM Nat := do
  match ← operands arguments with
  | [] => fail "usage: printf format [arg ...]"
  | format :: arguments =>
    let (events, code) := printFormat .builtin format arguments
    events.forM fun
      | .text text => print text
      | .complaint text => warn text
    pure code

def testCommand (isBracketed : Bool) (arguments : List Bytes) : ShellM Nat := do
  match ← Testing.run .builtin isBracketed arguments with
  | .ok value => pure (if value then 0 else 1)
  | .error message => fail message

def timesCommand : ShellM Nat := do
  print "0m0.000000s 0m0.000000s\n0m0.000000s 0m0.000000s\n"
  pure 0

def runOwn (e : Evaluator) (name : Bytes) (arguments : List Bytes) (flags : Flags) :
    ShellM Nat :=
  match name with
  | ":" => pure 0
  | "true" => pure 0
  | "false" => pure 1
  | "echo" => do
    print (echoBuiltin arguments)
    pure 0
  | "printf" => printfCommand arguments
  | "test" => testCommand false arguments
  | "[" => testCommand true arguments
  | "." => sourceCommand e arguments
  | "eval" => evalCommand e arguments flags
  | "exec" => execCommand arguments
  | "exit" => exitCommand arguments
  | "return" => returnCommand arguments
  | "break" => breakCommand .break arguments
  | "continue" => breakCommand .continue arguments
  | "export" => markCommand name arguments
  | "readonly" => markCommand name arguments
  | "local" => localCommand arguments
  | "unset" => unsetCommand arguments
  | "set" => setCommand arguments
  | "shift" => shiftCommand arguments
  | "times" => timesCommand
  | "trap" => trapCommand arguments
  | "alias" => aliasCommand arguments
  | "unalias" => unaliasCommand arguments
  | "bg" => resumeCommand arguments
  | "fg" => resumeCommand arguments
  | "jobs" => jobsCommand arguments
  | "kill" => killCommand arguments
  | "wait" => waitCommand arguments
  | "cd" => cdCommand arguments
  | "chdir" => cdCommand arguments
  | "pwd" => pwdCommand arguments
  | "command" => commandCommand arguments
  | "type" => typeCommand arguments
  | "hash" => hashCommand arguments
  | "getopts" => getoptsCommand arguments
  | "read" => readCommand arguments
  | "umask" => umaskCommand arguments
  | "ulimit" => ulimitCommand arguments
  | _ => pure 0

/-- Write what the shell's own command has printed; false when that fails. -/
def flush : ShellM Bool := do
  let text := (← get).written
  modify fun s => { s with written := "" }
  if text.isEmpty then pure true
  else match ← Program.write 1 text with
    | .ok _ => pure true
    | .error _ => pure false

/-- Run a command of the shell's own under its name: its status, or nothing when it has failed in
a way that the command around it may survive. -/
def evaluateOwn (e : Evaluator) (name : Bytes) (arguments : List Bytes) (flags : Flags)
    (isFatal : Bool) : ShellM Unit := do
  let command := (← get).command
  modify fun s => { s with command := some name }
  let raised ← try
      let status ← runOwn e name arguments flags
      let isWritten ← flush
      if !isWritten then warn s!"{name}: I/O error"
      modify fun s => { s with status := if isWritten then status else status ||| 1 }
      pure none
    catch r =>
      let _ ← flush
      pure (some r)
  modify fun s => { s with command }
  match raised with
  | none => pure ()
  | some .error => if isFatal then throw .error
  | some r => throw r

/-! ## Functions -/

def deepestFunction : Nat := 1000

def evaluateFunction (e : Evaluator) (body : Tree) (arguments : List Bytes) (flags : Flags) :
    ShellM Unit := do
  let s ← get
  if s.depth ≥ deepestFunction then
    fail s!"Maximum function recursion depth ({deepestFunction}) reached"
  set { s with
    positional := arguments, loops := 0, depth := s.depth + 1, optionIndex := 1
    optionOffset := none }
  let raised ← try
      let _ ← e.tree body { isTested := flags.isTested }
      pure none
    catch r => pure (some r)
  modify fun after =>
    { after with
      positional := s.positional, loops := s.loops, depth := s.depth
      optionIndex := s.optionIndex, optionOffset := s.optionOffset }
  endFunctionSkip
  match raised with
  | none => pure ()
  | some r => throw r

end PidOne.Machine.Shell
