import PidOne.Proofs.Kernel
import PidOne.Proofs.Run
import PidOne.Proofs.Supervisor

/-!
# A supervisor beside the kernel

Each step of the supervisor with what the kernel does for it, and between them whatever the kernel
does on its own: children end, orphans are adopted, signals arrive, and others enter and leave the
groups of the commands. The steps come in any order.
-/

namespace PidOne

open Kernel

/-- What the kernel made of the command of a phase: it refused it, or a child executes it. -/
structure Attempt where
  phase : Phase
  command : Command
  origin : Except Cause ChildId

structure Supervision where
  supervisor : Supervisor
  /-- The process group that the supervisor is in. -/
  group : Pid
  children : Children := fun _ => none
  /-- Whether anybody else is in the group of a child. -/
  crowded : ChildId → Bool := fun _ => false
  /-- The child that has been forked for the command in progress. -/
  child : Option ChildId := none
  attempts : List Attempt := []

namespace Supervision

def start (config : Config) (version : String) (self group : Pid) : Supervision :=
  { supervisor := .start config version self, group }

inductive Event
  | own (event : Supervisor.Event)
  | kernel (event : Kernel.Event)
  | crowd (child : ChildId) (crowded : Bool)

/-- A command's group is there as long as anybody is in it. -/
def Peopled (s : Supervision) (i : ChildId) (c : Child) : Prop :=
  c.life.isOver = false ∨ s.crowded i = true

/-- The kernel gives out no PID that is still the number of a group. -/
structure Unused (s : Supervision) (pid : Pid) : Prop where
  above : 2 ≤ pid
  below : pid ≤ 2147483647
  elsewhere : pid ≠ s.group
  empty : ∀ i c, s.children i = some c → c.own = true → c.pid = pid → ¬s.Peopled i c

/-- What the kernel does for a step of the supervisor, and which child has then been forked for the
command in progress. -/
inductive Serves (s : Supervision) : Supervisor.Event → Option ChildId → Children → Prop
  | advance : Serves s .advance none s.children
  | spawn (starts : Starts s.children s.child event forked k)
    (unused : ∀ pid, event = .fork (.ok pid) → s.Unused pid) :
    Serves s (.runner (.spawn event)) forked k
  | runner (other : ∀ event, e ≠ .spawn event) : Serves s (.runner e) s.child s.children
  | pass (passes : Passes s.children event collected k) :
    Serves s (.reaper (.pass event)) s.child k
  | reaper (other : ∀ event, e ≠ .pass event) : Serves s (.reaper e) s.child s.children
  | signal : Serves s (.signal x) s.child s.children

def origin? (child : Option ChildId) : Spawning.Event → Option (Except Cause ChildId)
  | .fork (.error cause) => some (.error cause)
  | .exec (some number) => some (.error (.errno number))
  | .exec none => child.map .ok
  | _ => none

/-- The attempt that is decided with this step. -/
def decided (s : Supervision) : Supervisor.Event → List Attempt
  | .runner (.spawn event) =>
    match s.supervisor.script with
    | .run phase command _ => (origin? s.child event).toList.map (⟨phase, command, ·⟩)
    | _ => []
  | _ => []

inductive Step (s : Supervision) : Event → Supervision → Prop
  | own (moves : s.supervisor.step event = some v) (serves : s.Serves event forked k) :
    Step s (.own event) { s with
      supervisor := v, children := k, child := forked
      attempts := s.attempts ++ s.decided event }
  | kernel (changes : Changes s.children event k) : Step s (.kernel event) { s with children := k }
  | crowd (known : s.children i = some c) (peopled : s.Peopled i c) :
    Step s (.crowd i b) { s with crowded := Function.update s.crowded i b }

end Supervision

end PidOne
