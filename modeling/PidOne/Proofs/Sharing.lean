import PidOne.Proofs.Kernel
import PidOne.Proofs.Run
import PidOne.Proofs.Table.Progress

/-!
# A shared table

One table, the tasks that start commands and make passes with it, each step of theirs on its own,
the holders of the handles, and the kernel. The steps come in any order.
-/

namespace PidOne

open Kernel

namespace Shared

/-- What a task does: nothing yet, start one command or make one pass. Beside the code's own state
stands the child that the start has forked, or the children that the pass has collected. -/
inductive Task
  | idle
  | starting (progress : Spawning) (child : Option ChildId)
  | reaping (pass : Pass) (collected : List ChildId)

/-- Where a handle is. Waiting uses it up once there is an answer. -/
inductive Custody
  /-- Its start has not given it out yet. -/
  | issuing
  | held
  | dropped
  | answered (answer : Except Failure ExitStatus)

/-- A handle with the child that was forked for it. -/
structure Ticket where
  handle : Handle
  child : ChildId
  custody : Custody

inductive Event
  | begin (task : TaskId) (work : Task)
  | spawn (task : TaskId) (event : Spawning.Event)
  | pass (task : TaskId) (event : Pass.Event)
  | kernel (event : Kernel.Event)
  | receive (ticket : Nat)
  | drop (ticket : Nat)

end Shared

structure Shared where
  table : Table := {}
  children : Children := fun _ => none
  tasks : TaskId → Shared.Task := fun _ => .idle
  tickets : List Shared.Ticket := []

namespace Shared

def assign (s : Shared) (task : TaskId) (work : Task) : Shared :=
  { s with tasks := Function.update s.tasks task work }

def Task.IsNew (work : Task) : Prop := work = .starting .queued none ∨ work = .reaping .queued []

def Ticket.pass (custody : Custody) (t : Ticket) : Ticket := { t with custody }

/-- The handle comes into being under the lock, and its caller has it when the lock is free. -/
def issue (tickets : List Ticket) : Spawning.Event → Spawning → Option ChildId → List Ticket
  | .register, .leaving (.ok handle), some child => tickets ++ [⟨handle, child, .issuing⟩]
  | .unlock, .done (.ok handle), _ => tickets.modify handle.slot (.pass .held)
  | _, _, _ => tickets

inductive Step (s : Shared) : Event → Shared → Prop
  | begin (idle : s.tasks task = .idle) (new : work.IsNew) :
    Step s (.begin task work) (s.assign task work)
  | spawn (busy : s.tasks task = .starting progress child)
    (moves : progress.step task s.table event = some (progress', t'))
    (kernel : Starts s.children child event child' k') :
    Step s (.spawn task event)
      ({ s with
        table := t'
        children := k'
        tickets := issue s.tickets event progress' child' }.assign task
        (.starting progress' child'))
  | pass (busy : s.tasks task = .reaping p collected)
    (moves : p.step task s.table event = some (p', t'))
    (kernel : Passes s.children event child k') :
    Step s (.pass task event)
      ({ s with table := t', children := k' }.assign task (.reaping p' (collected ++ child.toList)))
  | kernel (changes : Changes s.children event k') :
    Step s (.kernel event) { s with children := k' }
  | receive (given : s.tickets[n]? = some ticket) (held : ticket.custody = .held)
    (answers : s.table.poll ticket.handle = some answer) :
    Step s (.receive n) { s with tickets := s.tickets.modify n (.pass (.answered answer)) }
  | drop (given : s.tickets[n]? = some ticket) (held : ticket.custody = .held) :
    Step s (.drop n) { s with
      table := s.table.drop ticket.handle
      tickets := s.tickets.modify n (.pass .dropped) }

end Shared

end PidOne
