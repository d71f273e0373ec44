import PidOne.Proofs.Reaper
import PidOne.Proofs.Run
import PidOne.Proofs.Runner
import PidOne.Proofs.Table.Clones
import PidOne.Proofs.Table.Ledger
import PidOne.Proofs.Table.Work

/-!
# Who holds which table

Any number of tables, each with any number of clones: a caller, a reaper or a runner holds each of
them, and uses it or lets go of it at any time. Beside each table stands its ledger.
-/

namespace PidOne

open Kernel

/-- Who holds a clone, and what it is about. -/
inductive User
  | caller (work : Work)
  | reaper (reaper : Reaper)
  | runner (runner : Runner)

namespace User

inductive Event
  | caller (event : Work.Event)
  | reaper (event : Reaper.Event)
  | runner (event : Runner.Event)

def step (task : TaskId) (t : Table) : User → Event → Option (User × Table)
  | .caller w, .caller e => (w.step task t e).map fun (w, t) => (.caller w, t)
  | .reaper r, .reaper e => (r.step task t e).map fun (r, t) => (.reaper r, t)
  | .runner r, .runner e => (r.step task t e).map fun (r, t) => (.runner r, t)
  | _, _ => none

def requestStop : User → User
  | .reaper r => .reaper r.requestStop
  | u => u

def arrive (s : Signal) : User → User
  | .caller w => .caller w
  | .reaper r => .reaper (r.arrive s)
  | .runner r => .runner (r.arrive s)

/-- What a user does at its table. -/
def work : User → Work
  | .caller w => w
  | .reaper r =>
    match r.activity with
    | .passing pass => .reaping pass
    | _ => .idle
  | .runner (.spawning _ progress _) => .starting progress
  | .runner _ => .idle

/-- What a step of a user is to the kernel. -/
inductive Part
  | start (event : Spawning.Event)
  | pass (event : Pass.Event)
  | other

def Event.part : Event → Part
  | .caller (.spawn e) | .runner (.spawn e) => .start e
  | .caller (.pass e) | .reaper (.pass e) => .pass e
  | _ => .other

inductive Moves (task : TaskId) (t : Table) : Work → Part → Work → Table → Prop
  | start (moves : Spawning.Moves task t p e p' t') :
    Moves task t (.starting p) (.start e) (.starting p') t'
  | pass (moves : Pass.Moves task t p e p' t') :
    Moves task t (.reaping p) (.pass e) (.reaping p') t'
  | other (before : w.isInside = false) (after : w'.isInside = false) : Moves task t w .other w' t

variable {task other : TaskId} {t t' : Table} {u u' : User} {w w' : Work} {e : Event}
variable {part : Part}

theorem Moves.of_caller {event : Work.Event} (h : Work.Moves task t w event w' t') :
    Moves task t w (Event.caller event).part w' t' := by
  cases h with
  | spawn moves => exact .start moves
  | pass moves => exact .pass moves
  | start | sweep | started | swept => exact .other rfl rfl

theorem Moves.of_reaper {r r' : Reaper} {event : Reaper.Event}
    (h : Reaper.Moves task t r event r' t') :
    Moves task t (work (.reaper r)) (Event.reaper event).part (work (.reaper r')) t' := by
  cases h with
  | pass busy moves =>
    simp only [work, busy]
    exact .pass moves
  | rest idle | stop idle | timer idle | childEnded idle =>
    simp only [work, idle]
    exact .other rfl rfl

theorem Moves.of_runner {r r' : Runner} {event : Runner.Event}
    (h : Runner.Moves task t r event r' t') :
    Moves task t (work (.runner r)) (Event.runner event).part (work (.runner r')) t' := by
  cases h with
  | spawn moves => exact .start moves
  | begin | launch | fail | receive | relay | wind | detach | rest => exact .other rfl rfl

theorem Moves.of_step (h : u.step task t e = some (u', t')) :
    Moves task t u.work e.part u'.work t' := by
  unfold User.step at h
  split at h
  · obtain ⟨⟨work', t''⟩, step, same⟩ := Option.map_eq_some_iff.1 h
    cases same
    exact .of_caller (.of_step step)
  · obtain ⟨⟨reaper', t''⟩, step, same⟩ := Option.map_eq_some_iff.1 h
    cases same
    exact .of_reaper (.of_step step)
  · obtain ⟨⟨runner', t''⟩, step, same⟩ := Option.map_eq_some_iff.1 h
    cases same
    exact .of_runner (.of_step step)
  · cases h

theorem work_requestStop (u : User) : u.requestStop.work = u.work := by
  cases u <;> rfl

theorem work_arrive (u : User) (s : Signal) : (u.arrive s).work = u.work := by
  cases u with
  | caller => rfl
  | reaper r => simp only [arrive, work, Reaper.arrive_activity]
  | runner r => cases r <;> rfl

theorem Moves.inside (h : Moves task t w part w' t')
    (before : w.isInside = true ↔ t.holder = some task) :
    (w'.isInside = true ↔ t'.holder = some task) ∧
      ∀ other ≠ task, t'.holder = some other ↔ t.holder = some other := by
  cases h with
  | start moves => exact moves.inside before
  | pass moves => exact moves.inside before
  | other outside after => exact ⟨by rw [after, ← before, outside], fun _ _ => Iff.rfl⟩

/-- Whoever is not inside does nothing at the table of someone who is. -/
theorem Moves.other_of_held (h : Moves task t w part w' t') (held : t.holder = some other)
    (outside : w.isInside = false) : part = .other ∧ t' = t := by
  cases h with
  | start moves =>
    rcases moves.free_or_inside with free | inside
    · exact nomatch free.symm.trans held
    · exact nomatch outside.symm.trans inside
  | pass moves =>
    rcases moves.free_or_inside with free | inside
    · exact nomatch free.symm.trans held
    · exact nomatch outside.symm.trans inside
  | other => exact ⟨rfl, rfl⟩

end User

inductive Use
  | caller
  | reaper (interval : Nat)
  | runner

def Use.user : Use → User
  | .caller => .caller .idle
  | .reaper interval => .reaper { interval }
  | .runner => .runner (.idle none)

structure Holder where
  table : Nat
  user : User
  /-- The child that has been forked or collected last in its start or pass. -/
  child : Option ChildId := none

namespace Holdings

inductive Event
  | create
  | clone (holder : TaskId) (use : Use)
  | act (holder : TaskId) (event : User.Event)
  | stop (holder : TaskId)
  | signal (signal : Signal)
  | release (holder : TaskId)
  | drop (table slot : Nat)
  | kernel (event : Kernel.Event)

end Holdings

structure Holdings where
  registry : Registry := {}
  /-- The holder of each clone by the number of its task, until it lets go. -/
  holders : List (Option Holder) := []
  children : Children := fun _ => none
  ledgers : Nat → Ledger := fun _ => {}

namespace Holdings

/-- What the kernel does for a step at a table. It gives out no PID that the table still waits
for. -/
inductive Serves (k : Children) (t : Table) :
    Option ChildId → User.Part → Option ChildId → Children → Prop
  | start (starts : Starts k child e child' k')
    (fresh : ∀ pid, e = .fork (.ok pid) → t.waiter? pid = none) :
    Serves k t child (.start e) child' k'
  | pass (passes : Passes k e collected k') : Serves k t child (.pass e) collected k'
  | other : Serves k t child .other none k

/-- What is put down in the ledger. -/
def record (l : Ledger) : User.Part → Work → Option ChildId → Ledger
  | .start .register, .starting (.leaving (.ok handle)), some child => l.issue handle child
  | .pass (.wait answer), _, some child =>
    match answer.status? with
    | some status => l.collect child status
    | none => l
  | _, _, _ => l

inductive Step (s : Holdings) : Event → Holdings → Prop
  | create : Step s .create { s with
      registry := s.registry.create.1
      holders := s.holders ++ [some ⟨s.registry.create.2, .caller .idle, none⟩] }
  | clone (held : s.holders[i]? = some (some x)) : Step s (.clone i use) { s with
      registry := s.registry.clone x.table
      holders := s.holders ++ [some ⟨x.table, use.user, none⟩] }
  | act (held : s.holders[i]? = some (some x))
    (moves : x.user.step i (s.registry.get x.table) e = some (u', t'))
    (serves : Serves s.children (s.registry.get x.table) x.child e.part child' k') :
    Step s (.act i e) {
      registry := s.registry.set x.table t'
      holders := s.holders.set i (some { x with user := u', child := child' })
      children := k'
      ledgers := Function.update s.ledgers x.table
        (record (s.ledgers x.table) e.part u'.work child') }
  | stop (held : s.holders[i]? = some (some x)) : Step s (.stop i) { s with
      holders := s.holders.set i (some { x with user := x.user.requestStop }) }
  | signal : Step s (.signal z) { s with
      holders := s.holders.map fun o => o.map fun x => { x with user := x.user.arrive z } }
  /-- Also when a panic unwinds a task that is inside: it gives the lock back first. -/
  | release (held : s.holders[i]? = some (some x)) : Step s (.release i) { s with
      registry := (s.registry.set x.table ((s.registry.get x.table).leave i)).release x.table
      holders := s.holders.set i none }
  | drop : Step s (.drop n slot) { s with
      registry := s.registry.set n ((s.registry.get n).modifySlot slot .disown)
      ledgers := Function.update s.ledgers n ((s.ledgers n).drop slot) }
  | kernel (changes : Changes s.children e k') : Step s (.kernel e) { s with children := k' }

end Holdings

end PidOne
