import PidOne.Machine.Shell.Expansion

/-!
# Redirections

What a shell does to its descriptors for a command, and how it undoes that.
-/

namespace PidOne.Machine.Shell

open Text (Bytes)
open Routine (Program)

/-- A redirection whose target has been expanded. -/
structure Ready where
  descriptor : Descriptor
  mode : Mode
  target : Bytes

inductive Purpose
  | open_
  | create
  | execute
  deriving DecidableEq, Repr

def errorText (number : Errno) (purpose : Purpose) : Bytes :=
  if number = Errno.noEntry || number = Errno.notDirectory then
    match purpose with
    | .open_ => "No such file"
    | .create => "Directory nonexistent"
    | .execute => "not found"
  else number.message

/-- Descriptors that the shell keeps for itself begin here. -/
def ownDescriptors : Descriptor := 10

section

variable (substitute : Option Tree → ShellM Bytes)

def prepare (rs : List Redirection) : ShellM (List Ready) :=
  rs.mapM fun r => do
    let ⟨descriptor, mode, target⟩ := r
    let text ← joined substitute target
    if mode == .duplicate && !(text == "-" || (text.length = 1 && text.toList.all Char.isDigit)) then
      fail "Syntax error: Bad fd number"
    else pure ⟨descriptor, mode, text⟩

end

def openNew (path : Bytes) : ShellM (Except Errno Descriptor) := do
  match ← Program.status path with
  | .error _ => Program.openFile path { writes := true, creates := true, isNew := true }
  | .ok status =>
    if status.kind == .regular then pure (.error Errno.alreadyExists)
    else Program.openFile path { writes := true }

/-- A pipe from which a text can be read. One that the pipe cannot hold is written by a child. -/
def openText (text : Bytes) : ShellM Descriptor := do
  let (r, w) ← Program.openPipe
  if text.length ≤ 4096 then put w text
  else
    match ← Program.fork with
    | none => do
      let _ ← Program.close r
      [1, 2, 3, 13, 20].forM fun (signal : Signal) => do
        let _ ← Program.react signal (some .ignore)
      let _ ← Program.react Signal.pipe (some .default)
      put w text
      Program.exit 0
    | some _ => pure ()
  let _ ← Program.close w
  pure r

def openTarget (r : Ready) : ShellM Descriptor := do
  let created (answer : Except Errno Descriptor) : ShellM Descriptor :=
    match answer with
    | .ok d => pure d
    | .error number => fail s!"cannot create {r.target}: {errorText number .create}"
  match r.mode with
  | .read =>
    match ← Program.openFile r.target { reads := true } with
    | .ok d => pure d
    | .error number => fail s!"cannot open {r.target}: {errorText number .open_}"
  | .both =>
    created (← Program.openFile r.target { reads := true, writes := true, creates := true })
  | .write =>
    if (← get).has 'C' then created (← openNew r.target)
    else created (← Program.openFile r.target { writes := true, creates := true, truncates := true })
  | .overwrite =>
    created (← Program.openFile r.target { writes := true, creates := true, truncates := true })
  | .append =>
    created (← Program.openFile r.target { writes := true, creates := true, appends := true })
  | .here => openText r.target
  | .duplicate => pure ((r.target.toNat?).getD 0)

/-- Keep what a descriptor was, if that has not been done for the same command. -/
def saveDescriptor (d : Descriptor) (isOpenedHere : Bool) : ShellM Unit := do
  match (← get).saved with
  | [] => pure ()
  | innermost :: _ =>
    if innermost.any (·.descriptor == d) then pure ()
    else
      let copy ← if isOpenedHere then pure none else do
        match ← Program.duplicate d ownDescriptors with
        | .ok copy =>
          let _ ← Program.close d
          pure (some copy)
        | .error _ => pure none
      modify fun s =>
        match s.saved with
        | innermost :: rest => { s with saved := ({ descriptor := d, copy } :: innermost) :: rest }
        | [] => s

def redirectOne (keeps : Bool) (r : Ready) : ShellM Unit := do
  if r.mode == .duplicate && r.target == toString r.descriptor then return
  let opened ← openTarget r
  let isClosing := r.mode == .duplicate && r.target == "-"
  let isHere := r.mode != .duplicate && opened == r.descriptor
  if keeps then saveDescriptor r.descriptor isHere
  if isHere then return
  if isClosing then
    let _ ← Program.close r.descriptor
  else
    let answer ← Program.assign opened r.descriptor
    if r.mode != .duplicate then
      let _ ← Program.close opened
    match answer with
    | .ok _ => pure ()
    | .error number => fail s!"{opened}: {number.message}"

/-- Whether redirections fail; the message has been given then. -/
def redirectAll (keeps : Bool) (rs : List Ready) : ShellM Bool := do
  try
    rs.forM (redirectOne keeps)
    pure true
  catch
    | .error => pure false
    | r => throw r

def pushSaved : ShellM Unit := modify fun s => { s with saved := [] :: s.saved }

/-- Undo the innermost redirections, or let them stay. -/
def popSaved (stays : Bool) : ShellM Unit := do
  match (← get).saved with
  | [] => pure ()
  | innermost :: rest =>
    modify fun s => { s with saved := rest }
    innermost.forM fun x => do
      match x.copy with
      | some copy =>
        if !stays then
          let _ ← Program.assign copy x.descriptor
        let _ ← Program.close copy
      | none =>
        if !stays then
          let _ ← Program.close x.descriptor

end PidOne.Machine.Shell
