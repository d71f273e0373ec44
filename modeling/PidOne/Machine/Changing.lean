import PidOne.Machine.Opening

/-!
# Changes of the tree

The calls that make, move and remove files and directories.
-/

namespace PidOne.Machine

open Text (Bytes)

def crossDevice : Errno := 18

/-- The directory in which a path's last name can be made, which must be free. -/
def vacancy (m : Machine) (p : Process) (path : Bytes) (mayBeSlashed : Bool) :
    Except Errno (Node × Bytes) := do
  let l ← locate m p path false
  match l.found? with
  | some _ => throw Errno.alreadyExists
  | none => pure ()
  if l.isSlashed && !mayBeSlashed then throw Errno.noEntry
  match l.directory with
  | .node d =>
    if d == Files.processes then throw Errno.noEntry
    .ok (d, l.name)
  | _ => .error Errno.noEntry

def permitted (p : Process) (mode : Nat) : Nat :=
  Nat.land mode (4095 - Nat.land p.mask 4095)

def make (m : Machine) (p : Process) (path : Bytes) (content : Node → Content) (mode : Nat)
    (mayBeSlashed : Bool) : Except Errno Machine := do
  let (d, name) ← vacancy m p path mayBeSlashed
  .ok { m with files := (m.files.create d name (content d) mode m.clock).2 }

structure Named where
  directory : Node
  name : Bytes
  node : Node
  isSlashed : Bool

/-- The file that has a path's last name, be it a link. -/
def named (m : Machine) (p : Process) (path : Bytes) : Except Errno Named := do
  let l ← locate m p path false
  match l.found?, l.directory with
  | none, _ => .error Errno.noEntry
  | some _, .node d =>
    if l.name == "." || l.name == ".." then .error Errno.busy else
    match m.files.child? d l.name with
    | some node => .ok { directory := d, name := l.name, node, isSlashed := l.isSlashed }
    | none => .error Errno.notPermitted
  | some _, _ => .error Errno.notPermitted

def lastComponent (path : Bytes) : Bytes := ((components path).getLast?).getD ""

def removeDirectory (m : Machine) (p : Process) (path : Bytes) : Except Errno Machine := do
  if lastComponent path == "." then throw Errno.invalid
  if lastComponent path == ".." then throw Errno.notEmpty
  let x ← named m p path
  if !m.files.isDirectory x.node then throw Errno.notDirectory
  if !(m.files.entries x.node).isEmpty then throw Errno.notEmpty
  .ok { m with files := m.files.erase x.directory x.name m.clock }

def unlink (m : Machine) (p : Process) (path : Bytes) : Except Errno Machine := do
  if ["", ".", ".."].contains (lastComponent path) then
    let _ ← locate m p path false
    throw Errno.isDirectory
  let x ← named m p path
  if m.files.isDirectory x.node then throw Errno.isDirectory
  if x.isSlashed then throw Errno.notDirectory
  .ok { m with
    files := (m.files.erase x.directory x.name m.clock).addLinks x.node (· - 1) }

def isBelow (f : Files) (above : Node) : Nat → Node → Bool
  | 0, n => n == above
  | depth + 1, n => n == above || (n != Files.root && isBelow f above depth (f.parent n))

def rename (m : Machine) (p : Process) (source target : Bytes) : Except Errno Machine := do
  if [".", ".."].contains (lastComponent source) || [".", ".."].contains (lastComponent target)
  then throw Errno.busy
  let x ← named m p source
  let isDirectory := m.files.isDirectory x.node
  if x.isSlashed && !isDirectory then throw Errno.notDirectory
  let l ← locate m p target false
  let d ← match l.directory with
    | .node d => .ok d
    | _ => .error Errno.notPermitted
  if l.isSlashed && !isDirectory then throw Errno.notDirectory
  if isDirectory && isBelow m.files x.node Files.deepest d then throw Errno.invalid
  let old? := m.files.child? d l.name
  if old? == some x.node then return m
  match old? with
  | some old =>
    if isDirectory && !m.files.isDirectory old then throw Errno.notDirectory
    if !isDirectory && m.files.isDirectory old then throw Errno.isDirectory
    if !(m.files.entries old).isEmpty then throw Errno.notEmpty
  | none => pure ()
  let files := (m.files.erase d l.name m.clock).erase x.directory x.name m.clock
  let files := match old? with
    | some old => files.addLinks old (· - 1)
    | none => files
  .ok { m with files := files.insert d l.name x.node m.clock }

def makeLink (m : Machine) (p : Process) (source target : Bytes) : Except Errno Machine := do
  let x ← named m p source
  if m.files.isDirectory x.node then throw Errno.notPermitted
  let (d, name) ← vacancy m p target false
  .ok { m with files := (m.files.insert d name x.node m.clock).addLinks x.node (· + 1) }

def changeable (m : Machine) (p : Process) (path : Bytes) : Except Errno Node := do
  match ← find m p path with
  | .node n => .ok n
  | .held number =>
    match m.opened? number with
    | some { channel := .file n, .. } => .ok n
    | _ => .error Errno.invalid
  | _ => .error Errno.notPermitted

def applyChange (m : Machine) (p : Process) : Change → Except Errno (Machine × Process)
  | .makeDirectory path mode =>
    (make m p path (.directory []) (permitted p mode) true).map (·, p)
  | .makeFifo path mode => (make m p path (fun _ => .fifo 0) (permitted p mode) false).map (·, p)
  | .removeDirectory path => (removeDirectory m p path).map (·, p)
  | .unlink path => (unlink m p path).map (·, p)
  | .rename source target => (rename m p source target).map (·, p)
  | .link source target => (makeLink m p source target).map (·, p)
  | .symlink text target =>
    if text.isEmpty then .error Errno.noEntry
    else (make m p target (fun _ => .link text) 0o777 false).map (·, p)
  | .setMode path mode => do
    let n ← changeable m p path
    .ok ({ m with files := m.files.modify n fun f => { f with mode } }, p)
  | .setTime path modified => do
    let n ← changeable m p path
    let modified := modified.getD m.clock
    .ok ({ m with files := m.files.modify n fun f => { f with modified } }, p)
  | .truncate path size => do
    let n ← changeable m p path
    if m.files.isDirectory n then throw Errno.isDirectory
    .ok ({ m with files := m.files.truncate n size m.clock }, p)
  | .enter path => do
    match ← find m p path with
    | .node n =>
      if !m.files.isDirectory n then throw Errno.notDirectory
      .ok (m, { p with directory := n })
    | .process _ => .ok (m, { p with directory := Files.processes })
    | .descriptors _ => .ok (m, { p with directory := Files.processes })
    | _ => .error Errno.notDirectory

end PidOne.Machine
