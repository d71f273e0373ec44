import PidOne.Machine.Shell.OwnCommands

/-!
# Running commands

How a shell runs the commands that it has read. The functions here take what runs the parts of a
command as an argument; `evaluator` ties the knot, with fuel for the depth of commands.
-/

namespace PidOne.Machine.Shell

open Text (Bytes)
open Routine (Program)

/-! ## Simple commands -/

/-- The fields of the first words that come to any, and the words behind them. -/
def firstFields (e : Evaluator) : List Word → ShellM (List Bytes × List Word)
  | [] => pure ([], [])
  | w :: rest => do
    match ← fields (substitute e) w with
    | [] => firstFields e rest
    | found => pure (found, rest)

structure Resolved where
  words : List Bytes
  rest : List Word
  found : Option Found
  /-- Whether a command of the shell's own is special; nothing when there is none. -/
  isSpecial : Option Bool := none
  hidesValues : Bool := true
  path : Option Bytes := none

/-- What is left of the words behind `command` and its options, unless it has a job of its own:
then all words that have been expanded. -/
inductive Skipped
  | command (words : List Bytes) (rest : List Word) (isStandard : Bool)
  | nothing (words : List Bytes) (rest : List Word)

def skipCommand (e : Evaluator) :
    Nat → List Bytes → List Bytes → List Word → Bool → ShellM Skipped
  | 0, seen, words, rest, _ => pure (.nothing (seen ++ words) rest)
  | fuel + 1, seen, words, rest, isStandard => do
    let (words, rest) ← if words.isEmpty then firstFields e rest else pure (words, rest)
    match words with
    | [] => pure (.nothing seen rest)
    | word :: more =>
      match word.toList with
      | ['-'] => pure (.command words rest isStandard)
      | ['-', '-'] =>
        let (more, rest) ← if more.isEmpty then firstFields e rest else pure (more, rest)
        pure (if more.isEmpty then .nothing (seen ++ [word]) rest
          else .command more rest isStandard)
      | '-' :: letters =>
        if letters.all (· == 'p') then skipCommand e fuel (seen ++ [word]) more rest true
        else pure (.nothing (seen ++ words) rest)
      | _ => pure (.command words rest isStandard)

def resolve (e : Evaluator) : Nat → Bool → Resolved → ShellM Resolved
  | 0, _, x => pure x
  | fuel + 1, withFunctions, x => do
    let name := x.words.headD ""
    match (← get).known? name withFunctions with
    | some (.builtin traits) =>
      let isSpecial := x.isSpecial.getD traits.isSpecial
      let x := { x with
        found := some (.builtin traits), isSpecial := some isSpecial, hidesValues := !isSpecial }
      if name != "command" then pure x
      else
        let fuel' := x.words.length + x.rest.length + 1
        match ← skipCommand e fuel' [name] (x.words.drop 1) x.rest false with
        | .nothing words rest => pure { x with words, rest }
        | .command words rest isStandard =>
          resolve e fuel false { x with
            words, rest, found := none
            path := if isStandard then some standardPath else x.path }
    | found => pure { x with found, hidesValues := true }

def restOfFields (e : Evaluator) (takesValues : Bool) : List Word → ShellM (List Bytes)
  | [] => pure []
  | w :: rest => do
    let found ← if takesValues && (assignment? w).isSome then do
        pure [← joinedValue w]
      else fields (substitute e) w
    let more ← restOfFields e takesValues rest
    pure (found ++ more)
where
  joinedValue (w : Word) : ShellM Bytes :=
    match assignment? w with
    | some (name, value) => do
      let text ← joined (substitute e) value true
      pure (name ++ "=" ++ text)
    | none => pure ""

/-- Where messages go although standard error is redirected. -/
def errorDescriptor (s : Shell) : Descriptor :=
  ((s.saved.head?.bind fun xs => xs.find? (·.descriptor == 2)).bind (·.copy)).getD 2

def trace (e : Evaluator) (values : List (Bytes × Bytes)) (words : List Bytes) :
    ShellM Unit := do
  let s ← get
  if s.has 'x' then
    let mark ← expandPrompt ((s.get? "PS4").getD "+ ")
    let shown := values.map (fun (name, value) => name ++ "=" ++ value) ++ words
    put s.errorDescriptor (mark ++ " ".intercalate shown ++ "\n")
where
  expandPrompt (text : Bytes) : ShellM Bytes := do
    if !text.contains '$' && !text.contains '\x60' then return text
    let reading : Reading := { text := text.toList, isWhole := true }
    let isTracing := (← get).options
    setOption 'x' false
    let text ← match (parts (pure none) .document false Reader.enough []).run reading with
      | .ok (found, _) => joined (substitute e) found.reverse
      | .error _ => pure text
    modify fun s => { s with options := isTracing }
    pure text

/-- Carry out the assignments of a command, which last as long as it does if they hide others. -/
def assignAll (e : Evaluator) (hides exports : Bool) :
    List Word → ShellM (List (Bytes × Bytes))
  | [] => pure []
  | w :: rest => do
    match assignment? w with
    | none => assignAll e hides exports rest
    | some (name, value) =>
      let text ← joined (substitute e) value true
      if hides then hide name
      assign name (some text) (hides || exports)
      let more ← assignAll e hides exports rest
      pure ((name, text) :: more)

/-- Run a program and wait for it, or become it when there is nothing left to do. -/
def runProgram (paths words : List Bytes) (flags : Flags) : ShellM Unit := do
  if flags.exits && !hasTraps (← get) then become paths words
  else
    let job ← newJob
    match ← Program.fork with
    | none => fun s _ _ =>
      (become paths words : ShellM Unit) s (fun s _ => .exit s.status) fun s _ => .exit s.status
    | some pid =>
      addChild job pid
      let status ← awaitForeground job
      modify fun s => { s with status }

def runResolved (e : Evaluator) (x : Resolved) (assignments : List Word) (words : List Bytes)
    (flags : Flags) : ShellM Unit := do
  let isExec := x.words.head? == some "exec" && words.length > 1
  let isOwn := match x.found with
    | some (.builtin _) => true
    | _ => words.isEmpty
  let hides := x.hidesValues && !words.isEmpty
  let values ← assignAll e hides (isOwn && isExec) assignments
  trace e values words
  match x.found, words with
  | _, [] => modify fun s => { s with status := s.substituted }
  | some (.function body), _ :: arguments => evaluateFunction e body arguments flags
  | some (.builtin _), name :: arguments =>
    evaluateOwn e name arguments flags (x.isSpecial == some true)
  | _, name :: _ =>
    match ← locateProgram (x.path.getD (← get).searchPath) name with
    | .error number =>
      warn s!"{name}: {errorText number .execute}"
      modify fun s => { s with status := 127 }
    | .ok paths => runProgram paths words flags

def simpleCommand (e : Evaluator) (line : Nat) (assignments words : List Word)
    (redirections : List Redirection) (flags : Flags) : ShellM Nat := do
  modify fun s => { s with line, substituted := 0 }
  let (first, rest) ← firstFields e words
  let x : Resolved := { words := first, rest, found := none }
  let x ← if first.isEmpty then pure x else resolve e (words.length + first.length + 1) true x
  let takesValues := match x.found with
    | some (.builtin traits) => traits.takesValues
    | _ => false
  let words := x.words ++ (← restOfFields e takesValues x.rest)
  let isExec := words.head? == some "exec" && match x.found with
    | some (.builtin _) => true
    | _ => false
  let hides := x.hidesValues && !words.isEmpty
  if hides then pushHidden
  let ready ← prepare (substitute e) redirections
  if !redirections.isEmpty then pushSaved
  if ← redirectAll true ready then runResolved e x assignments words flags
  else
    modify fun s => { s with status := 2 }
    if x.isSpecial == some true then throw .error
  if !words.isEmpty && !(← get).jobs.isEmpty then collect none Reader.enough
  if !redirections.isEmpty then popSaved isExec
  if hides then popHidden
  pure (← get).status

/-! ## Compound commands -/

/-- What is left of a skip behind a loop's turn: whether the loop goes on, or ends. -/
inductive Turn
  | on
  | again
  | over (isFunction : Bool)

def endTurn : ShellM Turn := do
  let s ← get
  match s.skip with
  | none => pure .on
  | some (.function hasStatus) => pure (.over hasStatus)
  | some skip =>
    if s.skipCount ≤ 1 then
      set { s with skip := none, skipCount := 0 }
      pure (if skip == .continue then .again else .over false)
    else
      set { s with skipCount := s.skipCount - 1 }
      pure (.over false)

def inLoop (work : ShellM Nat) : ShellM Nat := do
  modify fun s => { s with loops := s.loops + 1 }
  let status ← work
  modify fun s => { s with loops := s.loops - 1 }
  pure status

def loop (e : Evaluator) (positive : Bool) (test body : Tree) (flags : Flags) :
    Nat → Nat → ShellM Nat
  | 0, status => pure status
  | fuel + 1, status => do
    let result ← e.tree test { isTested := true }
    match ← endTurn with
    | .over hasStatus => pure (if hasStatus then result else status)
    | .again => loop e positive test body flags fuel status
    | .on =>
      if (result = 0) != positive then pure status
      else
        let status ← e.tree body { isTested := flags.isTested }
        match ← endTurn with
        | .over _ => pure status
        | _ => loop e positive test body flags fuel status

def each (e : Evaluator) (name : Bytes) (body : Tree) (flags : Flags) :
    List Bytes → Nat → ShellM Nat
  | [], status => pure status
  | value :: rest, _ => do
    assign name (some value)
    let status ← e.tree body { isTested := flags.isTested }
    match ← endTurn with
    | .over _ => pure status
    | _ => each e name body flags rest status

def acceptsAny (e : Evaluator) (subject : Bytes) : List Word → ShellM Bool
  | [] => pure false
  | w :: rest => do
    if Pattern.accepts (← pattern (substitute e) w) subject.toList then pure true
    else acceptsAny e subject rest

def choose (e : Evaluator) (subject : Bytes) (flags : Flags) :
    List (List Word × Option Tree) → ShellM Nat
  | [] => pure 0
  | (patterns, body) :: rest => do
    if (← get).skip.isSome then pure 0
    else if ← acceptsAny e subject patterns then
      match body with
      | some tree => e.tree tree flags
      | none => pure 0
    else choose e subject flags rest

def subshell (e : Evaluator) (line : Nat) (body : Tree) (redirections : List Redirection)
    (isBackground : Bool) (flags : Flags) : ShellM Nat := do
  modify fun s => { s with line }
  let ready ← prepare (substitute e) redirections
  let work : ShellM Unit := do
    if ← redirectAll false ready then
      let isTested := flags.isTested && !isBackground
      let _ ← e.tree body { isTested, exits := true }
    else throw .error
  if flags.exits && !isBackground && !hasTraps (← get) then
    work
    pure (← get).status
  else
    let job ← newJob
    forkCopy e job isBackground work
    if isBackground then pure 0 else awaitForeground job

/-- Start the commands of a pipeline from one on, which reads from a pipe unless it is the first. -/
def startAll (e : Evaluator) (job : Nat) (isBackground : Bool) (flags : Flags) :
    Option Descriptor → List Tree → ShellM Unit
  | _, [] => pure ()
  | input, tree :: rest => do
    let next ← if rest.isEmpty then pure none else do pure (some (← Program.openPipe))
    forkCopy e job isBackground do
      match next with
      | some (r, _) =>
        let _ ← Program.close r
      | none => pure ()
      match input with
      | some d =>
        if d > 0 then
          let _ ← Program.assign d 0
          let _ ← Program.close d
      | none => pure ()
      match next with
      | some (_, w) =>
        if w > 1 then
          let _ ← Program.assign w 1
          let _ ← Program.close w
      | none => pure ()
      let _ ← e.tree tree { flags with exits := true }
    match input with
    | some d =>
      let _ ← Program.close d
    | none => pure ()
    match next with
    | some (_, w) =>
      let _ ← Program.close w
    | none => pure ()
    startAll e job isBackground flags (next.map (·.1)) rest

def pipeline (e : Evaluator) (commands : List Tree) (isBackground : Bool) (flags : Flags) :
    ShellM Nat := do
  let job ← newJob
  startAll e job isBackground flags none commands
  if isBackground then pure 0 else awaitForeground job

def group (e : Evaluator) (line : Nat) (body : Tree) (redirections : List Redirection)
    (flags : Flags) : ShellM Nat := do
  modify fun s => { s with line }
  let ready ← prepare (substitute e) redirections
  pushSaved
  let status ← if ← redirectAll true ready then e.tree body { isTested := flags.isTested }
    else pure 2
  popSaved false
  pure status

/-- Run a command: its status, and whether a failure may end the shell. -/
def runTree (e : Evaluator) (tree : Tree) (flags : Flags) : ShellM (Nat × Bool) := do
  let plain (work : ShellM Nat) : ShellM (Nat × Bool) := do pure (← work, false)
  let counted (work : ShellM Nat) : ShellM (Nat × Bool) := do pure (← work, true)
  match tree with
  | .simple line assignments words redirections =>
    counted (simpleCommand e line assignments words redirections flags)
  | .pipe _ commands isBackground => counted (pipeline e commands isBackground flags)
  | .group line body redirections => plain (group e line body redirections flags)
  | .background line body redirections =>
    counted (subshell e line body redirections true flags)
  | .subshell line body redirections =>
    counted (subshell e line body redirections false flags)
  | .sequence first second => plain do
    let status ← e.tree first { isTested := flags.isTested }
    if (← get).skip.isSome then pure status else e.tree second flags
  | .both first second => plain do
    let status ← e.tree first { isTested := true }
    if status != 0 || (← get).skip.isSome then pure status else e.tree second flags
  | .either first second => plain do
    let status ← e.tree first { isTested := true }
    if status = 0 || (← get).skip.isSome then pure status else e.tree second flags
  | .negation body => plain do
    let status ← e.tree body { isTested := true }
    pure (if status = 0 then 1 else 0)
  | .conditional test yes no => plain do
    let status ← e.tree test { isTested := true }
    if (← get).skip.isSome then pure status
    else if status = 0 then e.tree yes flags
    else match no with
      | some no => e.tree no flags
      | none => pure 0
  | .loop positive test body => plain (inLoop (loop e positive test body flags Reader.enough 0))
  | .each line name words body => plain do
    modify fun s => { s with line }
    let values ← words.mapM (fields (substitute e))
    inLoop (each e name body flags values.flatten 0)
  | .choice line subject branches => plain do
    modify fun s => { s with line }
    let text ← joined (substitute e) subject
    choose e text flags branches
  | .definition _ name body => plain do
    modify fun s =>
      { s with functions := (name, body) :: s.functions.filter (·.1 != name) }
    pure 0

/-- Whether signals are looked for around a command: the others are made of such ones. -/
def isLeaf : Tree → Bool
  | .simple .. => true
  | .pipe .. => true
  | .background .. => true
  | .subshell .. => true
  | _ => false

def evaluate (e : Evaluator) (tree : Tree) (flags : Flags) : ShellM Nat := do
  if (← get).has 'n' then
    if flags.exits then throw .finish
    return (← get).status
  if isLeaf tree then poll e
  let (status, mayEnd) ← runTree e tree flags
  modify fun s => { s with status }
  if isLeaf tree then poll e
  if mayEnd && status != 0 && !flags.isTested && (← get).has 'e' then throw .finish
  if flags.exits then throw .finish
  pure (← get).status

/-- Run the commands of a text. The last one may be all that is left to do. -/
def evaluateText (e : Evaluator) (flags : Flags) : Nat → Reading → Nat → ShellM Nat
  | 0, _, status => pure status
  | fuel + 1, r, status => do
    match readLine { r with aliases := (← get).aliases } with
    | .error .more => pure status
    | .error (.fault line message) =>
      modify fun s => { s with line }
      fail s!"Syntax error: {message}"
    | .ok (.finish, _) => pure status
    | .ok (.blank, r) => evaluateText e flags fuel r status
    | .ok (.commands tree isLast, r) =>
      let status ← e.tree tree { flags with exits := flags.exits && isLast }
      if (← get).skip.isSome then pure status
      else evaluateText e flags fuel r status

/-- What runs commands down to a depth. Deeper ones overflow the stack. -/
def evaluator : Nat → Evaluator
  | 0 =>
    let overflow : ShellM Nat := do
      let self ← Program.identity
      let _ ← Program.react 11 (some .default)
      let _ ← Program.kill self.pid 11
      Program.exit 139
    { tree := fun _ _ => overflow, text := fun _ _ => overflow }
  | depth + 1 =>
    { tree := fun tree flags => evaluate (evaluator depth) tree flags
      text := fun text flags =>
        evaluateText (evaluator depth) flags Reader.enough
          { text := text.toList, isWhole := true } 0 }

end PidOne.Machine.Shell
