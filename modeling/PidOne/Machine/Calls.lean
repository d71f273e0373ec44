import PidOne.Machine.Changing
import PidOne.Machine.Image

/-!
# System calls

How the kernel answers the calls of a process. A call that has to wait changes nothing and is tried
again when something else has happened.
-/

namespace PidOne.Machine

open Text (Bytes)

abbrev Catalogue := Bytes → Start → Routine

def proceed (m : Machine) (p : Process) (micros : Nat) (routine : Routine) : Machine :=
  m.update p.pid fun q =>
    { q with
      routine := some routine, ready := m.clock + micros, isBlocked := false
      isInterrupted := false, alarm := none }

/-- Microseconds that calls take. -/
def callTime : Nat := 3
def forkTime : Nat := 120
def execTime : Nat := 400

def endOf (m : Machine) (pid : Pid) (d : Descriptor) : Machine :=
  (m.update pid (·.release d)).tidy

def forkProcess (m : Machine) (p : Process) (routine : Routine) : Machine × Pid :=
  let pid := m.freePid
  let child := { p with
    pid, parent := p.pid, routine := some routine, ready := m.clock + forkTime
    isBlocked := false, isInterrupted := false, alarm := none, pending := [], arrived := [] }
  ({ m with processes := m.processes ++ [child], nextPid := pid + 1 }, pid)

def execute (programs : Catalogue) (m : Machine) (p : Process) (image : Image)
    (environment : List Bytes) : Machine :=
  let routine := programs image.program { arguments := image.arguments, environment }
  (m.update p.pid fun q =>
    { q with
      routine := some routine, ready := m.clock + execTime, isBlocked := false
      isInterrupted := false, alarm := none, name := image.name, arguments := image.arguments
      environment, holdings := q.holdings.filter (!·.closesOnExec), caught := []
      arrived := [] }).tidy

def isAwaited (p : Process) (awaited : Awaited) (q : Process) : Bool :=
  q.parent == p.pid && match awaited with
    | .any => true
    | .child pid => q.pid == pid

def waitFor (m : Machine) (p : Process) (awaited : Awaited) (blocks : Bool) :
    Option (Except Errno (Option (Pid × RawStatus)) × Machine) :=
  let children := m.processes.filter (isAwaited p awaited)
  if children.isEmpty then some (.error Errno.noChild, m) else
  match children.findSome? fun q => q.raw?.map (q.pid, ·) with
  | some (pid, raw) => some (.ok (some (pid, raw)), m.remove pid)
  | none => if blocks then none else some (.ok none, m)

def dispositionOf (p : Process) (s : Signal) : Disposition :=
  if p.caught.contains s then .catch else if p.ignored.contains s then .ignore else .default

/-- Some signals always do the same. -/
def setDisposition (s : Signal) (d : Disposition) (p : Process) : Process :=
  if s = Signal.kill || s = Signal.stop || reservedSignals.contains s then p else
  let ignored := p.ignored.filter (· != s)
  let caught := p.caught.filter (· != s)
  match d with
  | .default => { p with ignored, caught }
  | .ignore => { p with ignored := s :: ignored, caught, pending := p.pending.filter (· != s) }
  | .catch => { p with ignored, caught := s :: caught }

def identityOfProcess (p : Process) : Identity := ⟨p.pid, p.parent, p.group, p.session⟩

def setGroupOf (m : Machine) (p : Process) (pid group : Pid) : Except Errno Machine := do
  let pid := if pid = 0 then p.pid else pid
  let group := if group = 0 then pid else group
  match m.get? pid with
  | none => .error Errno.noProcess
  | some q =>
    if q.pid != p.pid && q.parent != p.pid then throw Errno.noProcess
    if q.session == q.pid || q.session != p.session then throw Errno.notPermitted
    if group != pid && !m.processes.any fun x => x.group == group && x.session == p.session then
      throw Errno.notPermitted
    .ok (m.update pid fun q => { q with group })

def setSessionOf (m : Machine) (p : Process) : Except Errno Machine :=
  if m.processes.any (·.group == p.pid) then .error Errno.notPermitted
  else .ok (m.update p.pid fun q => { q with group := p.pid, session := p.pid })

def hasMet (m : Machine) (p : Process) (d : Descriptor) (openings : Nat) : Bool :=
  match m.openedBy? p d with
  | some { channel := .pipe number, reads, .. } =>
    match m.pipe? number with
    | some x =>
      if reads then m.hasWriter number || x.writings > openings
      else m.hasReader number || x.readings > openings
    | none => true
  | _ => true

/-- A call that waits fails when a signal interrupts it. -/
def interrupt {α : Type} (m : Machine) (p : Process) (rest : Except Errno α → Routine) :
    Option Machine :=
  if p.isInterrupted then some (m.proceed p callTime (rest (.error Errno.interrupted))) else none

def perform (programs : Catalogue) (m : Machine) (p : Process) : Routine → Option Machine
  | .exit code => some (m.terminate p.pid (exitRaw code))
  | .spend micros rest => some (m.proceed p micros (rest ()))
  | .openFile path access mode rest =>
    match m.openPath p path access mode with
    | .error number => some (m.proceed p callTime (rest (.error number)))
    | .ok (m, .now d) => some (m.proceed p callTime (rest (.ok d)))
    | .ok (m, .meeting d openings) =>
      some (m.proceed p callTime (.meet d openings fun answer => rest (answer.map fun _ => d)))
  | .meet d openings rest =>
    if hasMet m p d openings then some (m.proceed p callTime (rest (.ok ())))
    else if p.isInterrupted then
      some ((m.endOf p.pid d).proceed p callTime (rest (.error Errno.interrupted)))
    else none
  | .close d rest =>
    if (p.holding? d).isSome then some ((m.endOf p.pid d).proceed p callTime (rest (.ok ())))
    else some (m.proceed p callTime (rest (.error Errno.badDescriptor)))
  | .duplicate d least closesOnExec rest =>
    match p.holding? d with
    | none => some (m.proceed p callTime (rest (.error Errno.badDescriptor)))
    | some h =>
      let copy := p.freeFrom least
      let m := m.update p.pid (·.hold { h with descriptor := copy, closesOnExec })
      some (m.proceed p callTime (rest (.ok copy)))
  | .assign source target rest =>
    match p.holding? source with
    | none => some (m.proceed p callTime (rest (.error Errno.badDescriptor)))
    | some h =>
      if source = target then some (m.proceed p callTime (rest (.ok ()))) else
      let m := m.update p.pid (·.hold { h with descriptor := target, closesOnExec := false })
      some (m.tidy.proceed p callTime (rest (.ok ())))
  | .openPipe rest =>
    let (m, number) := m.addPipe none
    let (m, r) := m.grant p (.pipe number) { reads := true }
    let (m, w) := m.grant ((m.get? p.pid).getD p) (.pipe number) { writes := true }
    some (m.proceed p callTime (rest (r, w)))
  | .read d count rest =>
    match m.openedBy? p d with
    | none => some (m.proceed p callTime (rest (.error Errno.badDescriptor)))
    | some o =>
      match m.readFrom o count with
      | some (answer, m) => some (m.proceed p callTime (rest answer))
      | none =>
        m.interrupt p rest
  | .write d text rest =>
    match m.openedBy? p d with
    | none => some (m.proceed p callTime (rest (.error Errno.badDescriptor)))
    | some o =>
      match m.writeTo o text with
      | .done answer m => some (m.proceed p callTime (rest answer))
      | .part count m =>
        let more := String.ofList (text.toList.drop count)
        some (m.proceed p callTime (.write d more fun answer => rest (answer.map (· + count))))
      | .broken =>
        let m := m.proceed p callTime (rest (.error Errno.brokenPipe))
        some (m.send p.pid Signal.pipe)
      | .waiting =>
        m.interrupt p rest
  | .seek d offset origin rest =>
    match m.openedBy? p d with
    | none => some (m.proceed p callTime (rest (.error Errno.badDescriptor)))
    | some o =>
      match m.seekIn o offset origin with
      | .ok (offset, m) => some (m.proceed p callTime (rest (.ok offset)))
      | .error number => some (m.proceed p callTime (rest (.error number)))
  | .status path follows rest =>
    some (m.proceed p callTime (rest (statusAt m p path follows)))
  | .statusOf d rest =>
    some (m.proceed p callTime (rest (match m.openedBy? p d with
      | some o => .ok (statusOfOpened m o)
      | none => .error Errno.badDescriptor)))
  | .list path rest =>
    some (m.proceed p callTime (rest (do namesAt m (← find m p path))))
  | .readLink path rest =>
    some (m.proceed p callTime (rest (do
      match (← locate m p path false).found? with
      | some (.link text) => .ok text
      | some (.jump _ text) => .ok text
      | some (.place _) => .error Errno.invalid
      | none => .error Errno.noEntry)))
  | .change c rest =>
    match m.applyChange p c with
    | .ok (m, p) => some ((m.setProcess p).proceed p callTime (rest (.ok ())))
    | .error number => some (m.proceed p callTime (rest (.error number)))
  | .directory rest => some (m.proceed p callTime (rest (m.files.path p.directory)))
  | .mask bits rest =>
    let m := m.update p.pid fun q => { q with mask := bits.getD q.mask }
    some (m.proceed p callTime (rest p.mask))
  | .fork child rest =>
    let (m, pid) := m.forkProcess p (child ())
    some (m.proceed p forkTime (rest pid))
  | .exec path arguments environment rest =>
    match imageOf m p path arguments environment with
    | .ok image => some (m.execute programs p image environment)
    | .error number => some (m.proceed p callTime (rest number))
  | .wait awaited blocks rest =>
    match m.waitFor p awaited blocks with
    | some (answer, m) => some (m.proceed p callTime (rest answer))
    | none =>
      m.interrupt p rest
  | .kill target s rest =>
    match m.kill p target s with
    | .ok after =>
      -- The call is over before what it does to its own caller.
      let m := m.proceed p callTime (rest (.ok ()))
      some ((m.kill p target s).toOption.getD after)
    | .error number => some (m.proceed p callTime (rest (.error number)))
  | .react s disposition rest =>
    let m := match disposition with
      | some d => m.update p.pid (setDisposition s d)
      | none => m
    some (m.proceed p callTime (rest (dispositionOf p s)))
  | .caught micros rest =>
    let m := m.update p.pid fun q => { q with arrived := [] }
    some (m.proceed p micros (rest p.arrived))
  | .sleep micros rest =>
    match p.alarm with
    | none => some (m.update p.pid fun q => { q with alarm := some (m.clock + micros) })
    | some alarm =>
      if alarm ≤ m.clock then some (m.proceed p callTime (rest true))
      else if p.isInterrupted then some (m.proceed p callTime (rest false))
      else none
  | .identity rest => some (m.proceed p callTime (rest (identityOfProcess p)))
  | .identityOf pid rest =>
    some (m.proceed p callTime (rest ((m.get? pid).map identityOfProcess)))
  | .setGroup pid group rest =>
    match m.setGroupOf p pid group with
    | .ok m => some (m.proceed p callTime (rest (.ok ())))
    | .error number => some (m.proceed p callTime (rest (.error number)))
  | .setSession rest =>
    match m.setSessionOf p with
    | .ok m => some (m.proceed p callTime (rest (.ok ())))
    | .error number => some (m.proceed p callTime (rest (.error number)))
  | .processes rest => some (m.proceed p callTime (rest (m.processes.map (·.pid))))
  | .clock rest => some (m.proceed p callTime (rest m.clock))

def isReady (m : Machine) (p : Process) : Bool :=
  match p.routine with
  | none => false
  | some r =>
    p.isInterrupted || match r with
    | .meet d openings _ => hasMet m p d openings
    | .read d count _ => (m.openedBy? p d).all fun o => (m.readFrom o count).isSome
    | .write d text _ =>
      (m.openedBy? p d).all fun o =>
        match m.writeTo o text with
        | .waiting => false
        | _ => true
    | .wait awaited blocks _ => (m.waitFor p awaited blocks).isSome
    | .sleep .. => false
    | _ => true

end PidOne.Machine
