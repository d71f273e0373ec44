import PidOne.Machine.Delivery
import PidOne.Machine.Paths

/-!
# Reading and writing

The calls that open files, read from them and write to them. A call that has to wait has no
answer yet.
-/

namespace PidOne.Machine

open Text (Bytes)

def setProcess (m : Machine) (p : Process) : Machine := m.update p.pid fun _ => p

def grant (m : Machine) (p : Process) (channel : Channel) (access : Access) :
    Machine × Descriptor :=
  let (m, opened) := m.addOpened channel access
  let d := p.freeFrom 0
  (m.setProcess (p.hold { descriptor := d, opened }), d)

def pipeOfNode (m : Machine) (n : Node) : Machine × Nat :=
  match m.pipes.find? fun x => x.node == some n with
  | some x => (m, x.number)
  | none => m.addPipe (some n)

/-- What opening comes to: a descriptor, or one for a pipe whose other end must be opened first. -/
inductive Granted
  | now (descriptor : Descriptor)
  | meeting (descriptor : Descriptor) (openings : Nat)

def openFifo (m : Machine) (p : Process) (number : Nat) (access : Access) : Machine × Granted :=
  let (m, d) := m.grant p (.pipe number) access
  let m := m.modifyPipe number fun x =>
    { x with
      readings := if access.reads then x.readings + 1 else x.readings
      writings := if access.writes then x.writings + 1 else x.writings }
  match m.pipe? number with
  | none => (m, .now d)
  | some x =>
    if access.reads && access.writes then (m, .now d)
    else if access.reads then
      if m.hasWriter number then (m, .now d) else (m, .meeting d x.writings)
    else if m.hasReader number then (m, .now d) else (m, .meeting d x.readings)

def openNode (m : Machine) (p : Process) (n : Node) (access : Access) :
    Except Errno (Machine × Granted) :=
  match (m.files.get n).content with
  | .directory .. =>
    if access.writes || access.creates then .error Errno.isDirectory
    else granted m (.file n)
  | .regular .. =>
    granted (if access.truncates && access.writes then
      { m with files := m.files.truncate n 0 m.clock } else m) (.file n)
  | .compiled _ => if access.writes then .error Errno.textBusy else granted m (.file n)
  | .link _ => .error Errno.tooManyLinks
  | .fifo _ =>
    let (m, number) := m.pipeOfNode n
    .ok (m.openFifo p number access)
  | .device .terminal => .error Errno.noDevice
  | .device _ => granted m (.file n)
where
  granted (m : Machine) (channel : Channel) : Except Errno (Machine × Granted) :=
    let (m, d) := m.grant p channel access
    .ok (m, .now d)

def openPlace (m : Machine) (p : Process) (place : Place) (access : Access) :
    Except Errno (Machine × Granted) :=
  match place with
  | .node n => m.openNode p n access
  | .description pid name =>
    if access.writes then .error Errno.accessDenied else
    match (m.get? pid).bind (·.description? name) with
    | some text =>
      let (m, d) := m.grant p (.snapshot text) access
      .ok (m, .now d)
    | none => .error Errno.noEntry
  | .held number =>
    match m.opened? number with
    | none => .error Errno.noEntry
    | some o =>
      match o.channel with
      | .file n => m.openNode p n access
      | channel =>
        let (m, d) := m.grant p channel access
        .ok (m, .now d)
  | _ =>
    if access.writes || access.creates then .error Errno.isDirectory
    else m.openNode p Files.processes access

def openPath (m : Machine) (p : Process) (path : Bytes) (access : Access) (mode : Nat) :
    Except Errno (Machine × Granted) := do
  let l ← locate m p path (!(access.creates && access.isNew))
  match l.found? with
  | some (.place place) =>
    if access.creates && access.isNew then .error Errno.alreadyExists
    else if access.creates && l.isSlashed then .error Errno.isDirectory
    else m.openPlace p place access
  | some _ => .error (if access.isNew then Errno.alreadyExists else Errno.noEntry)
  | none =>
    if !access.creates then .error Errno.noEntry
    else if l.isSlashed then .error Errno.isDirectory
    else match l.directory with
      | .node d =>
        if !m.files.isDirectory d then .error Errno.notDirectory
        else if d == Files.processes then .error Errno.noEntry
        else
          let (n, files) := m.files.create d l.name (.regular "" 0)
            (Nat.land mode (4095 - Nat.land p.mask 4095)) m.clock
          ({ m with files }).openNode p n access
      | _ => .error Errno.noEntry

def readFrom (m : Machine) (o : Opened) (count : Nat) : Option (Except Errno Bytes × Machine) :=
  let advance (text : Bytes) : Option (Except Errno Bytes × Machine) :=
    some (.ok text, m.modifyOpened o.number fun o => { o with offset := o.offset + text.length })
  if !o.reads then some (.error Errno.badDescriptor, m) else
  match o.channel with
  | .snapshot text => advance (String.ofList ((text.toList.drop o.offset).take count))
  | .pipe number =>
    match m.pipe? number with
    | none => some (.ok "", m)
    | some x =>
      if x.text.isEmpty then
        if m.hasWriter number && count > 0 then none else some (.ok "", m)
      else
        let cs := x.text.toList
        some (.ok (String.ofList (cs.take count)),
          m.modifyPipe number fun x => { x with text := String.ofList (cs.drop count) })
  | .file n =>
    match (m.files.get n).content with
    | .directory .. => some (.error Errno.isDirectory, m)
    | .device .null => some (.ok "", m)
    | .device .random => advance (noise o.offset count)
    | .device .lastPid =>
      advance (String.ofList (((s!"{m.nextPid - 1}\n").toList.drop o.offset).take count))
    | .device _ => some (.ok (Files.zeros count), m)
    | _ => advance (m.files.readAt n o.offset count)
where
  noise (seed count : Nat) : Bytes :=
    String.ofList ((List.range count).map fun k =>
      Char.ofNat ((((seed + k + 1) * 2654435761 + 12345) / 65536) % 256))

def pipeCapacity : Nat := 65536

/-- What writing comes to: an answer, or a part that was written before the rest can be, or a
wait. -/
inductive Writing
  | done (answer : Except Errno Nat) (machine : Machine)
  | part (count : Nat) (machine : Machine)
  | broken
  | waiting

def writeTo (m : Machine) (o : Opened) (text : Bytes) : Writing :=
  let count := text.length
  if !o.writes then .done (.error Errno.badDescriptor) m else
  match o.channel with
  | .snapshot _ => .done (.error Errno.badDescriptor) m
  | .pipe number =>
    if !m.hasReader number then .broken else
    let held := (m.pipe? number).elim 0 (·.text.length)
    let room := pipeCapacity - held
    let put (text : Bytes) : Machine := m.modifyPipe number fun x => { x with text := x.text ++ text }
    if count ≤ room then .done (.ok count) (put text)
    else if room = 0 || count ≤ 4096 then .waiting
    else .part room (put (String.ofList (text.toList.take room)))
  | .file n =>
    match (m.files.get n).content with
    | .regular _ size =>
      let offset := if o.appends then size else o.offset
      let m := { m with files := m.files.writeAt n offset text m.clock }
      .done (.ok count) (m.modifyOpened o.number fun o => { o with offset := offset + count })
    | .device .full => .done (if count = 0 then .ok 0 else .error Errno.noSpace) m
    | .device .lastPid =>
      match text.trimAscii.toString.toNat? with
      | some last =>
        if last < pidLimit then .done (.ok count) { m with nextPid := last + 1 }
        else .done (.error Errno.invalid) m
      | none => .done (.error Errno.invalid) m
    | .device _ => .done (.ok count) m
    | _ => .done (.error Errno.badDescriptor) m

def seekIn (m : Machine) (o : Opened) (offset : Int) (origin : Origin) :
    Except Errno (Nat × Machine) :=
  let moved (size : Nat) : Except Errno (Nat × Machine) :=
    let base : Int := match origin with
      | .start => 0
      | .current => o.offset
      | .finish => size
    if base + offset < 0 then .error Errno.invalid else
    let offset := (base + offset).toNat
    .ok (offset, m.modifyOpened o.number fun o => { o with offset })
  match o.channel with
  | .pipe _ => .error Errno.notSeekable
  | .snapshot text => moved text.length
  | .file n =>
    match (m.files.get n).content with
    | .device _ => .ok (0, m)
    | _ => moved (m.files.size n)

end PidOne.Machine
