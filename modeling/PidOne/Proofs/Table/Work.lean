import PidOne.Proofs.Table.Progress
import PidOne.Proofs.Table.Waiters

/-!
# What a task does at a table

A task starts commands and makes passes, one after another. It is inside from when it has taken the
lock until it gives it back, and nobody else is inside meanwhile.
-/

namespace PidOne

def Spawning.isInside : Spawning → Bool
  | .queued | .done _ => false
  | _ => true

def Pass.isInside : Pass → Bool
  | .queued | .done _ => false
  | _ => true

theorem Spawning.Moves.inside {task : TaskId} {t t' : Table} {p p' : Spawning}
    {e : Spawning.Event} (h : Spawning.Moves task t p e p' t')
    (before : p.isInside = true ↔ t.holder = some task) :
    (p'.isInside = true ↔ t'.holder = some task) ∧
      ∀ other ≠ task, t'.holder = some other ↔ t.holder = some other := by
  cases h with
  | lock free => simp_all [isInside, eq_comm]
  | register => simp_all [isInside, Table.holder_register]
  | unlock held => simp_all [isInside, eq_comm]
  | _ => simp_all [isInside]

theorem Pass.Moves.inside {task : TaskId} {t t' : Table} {p p' : Pass} {e : Pass.Event}
    (h : Pass.Moves task t p e p' t') (before : p.isInside = true ↔ t.holder = some task) :
    (p'.isInside = true ↔ t'.holder = some task) ∧
      ∀ other ≠ task, t'.holder = some other ↔ t.holder = some other := by
  cases h with
  | lock free => simp_all [isInside, eq_comm]
  | unlock held => simp_all [isInside, eq_comm]
  | _ => simp_all [isInside]

/-- A task that is not inside gets in only when nobody is. -/
theorem Spawning.Moves.free_or_inside {task : TaskId} {t t' : Table} {p p' : Spawning}
    {e : Spawning.Event} (h : Spawning.Moves task t p e p' t') :
    t.holder = none ∨ p.isInside = true := by
  cases h with
  | lock free => exact .inl free
  | _ => exact .inr rfl

theorem Pass.Moves.free_or_inside {task : TaskId} {t t' : Table} {p p' : Pass} {e : Pass.Event}
    (h : Pass.Moves task t p e p' t') : t.holder = none ∨ p.isInside = true := by
  cases h with
  | lock free => exact .inl free
  | _ => exact .inr rfl

/-- Give the lock back, if the task has it. -/
def Table.leave (t : Table) (task : TaskId) : Table := (t.unlock? task).getD t

namespace Table

variable {t : Table} {task other : TaskId}

theorem waiters_leave : (t.leave task).waiters = t.waiters := by
  simp only [leave, unlock?]
  split <;> rfl

theorem slots_leave : (t.leave task).slots = t.slots := by
  simp only [leave, unlock?]
  split <;> rfl

theorem holder_leave :
    (t.leave task).holder = some other ↔ t.holder = some other ∧ other ≠ task := by
  simp only [leave, unlock?]
  split <;> grind

end Table

inductive Work
  | idle
  | starting (progress : Spawning)
  | reaping (pass : Pass)

namespace Work

inductive Event
  | start
  | sweep
  | spawn (event : Spawning.Event)
  | pass (event : Pass.Event)
  | rest

def step (task : TaskId) (t : Table) : Work → Event → Option (Work × Table)
  | .idle, .start => some (.starting .queued, t)
  | .idle, .sweep => some (.reaping .queued, t)
  | .starting progress, .spawn event =>
    (progress.step task t event).map fun (progress, t) => (.starting progress, t)
  | .reaping pass, .pass event =>
    (pass.step task t event).map fun (pass, t) => (.reaping pass, t)
  | .starting (.done _), .rest | .reaping (.done _), .rest => some (.idle, t)
  | _, _ => none

def isInside : Work → Bool
  | .idle => false
  | .starting progress => progress.isInside
  | .reaping pass => pass.isInside

inductive Moves (task : TaskId) (t : Table) : Work → Event → Work → Table → Prop
  | start : Moves task t .idle .start (.starting .queued) t
  | sweep : Moves task t .idle .sweep (.reaping .queued) t
  | spawn (moves : Spawning.Moves task t p e p' t') :
    Moves task t (.starting p) (.spawn e) (.starting p') t'
  | pass (moves : Pass.Moves task t p e p' t') :
    Moves task t (.reaping p) (.pass e) (.reaping p') t'
  | started : Moves task t (.starting (.done answer)) .rest .idle t
  | swept : Moves task t (.reaping (.done statuses)) .rest .idle t

variable {task : TaskId} {t t' : Table} {w w' : Work} {e : Event}

theorem Moves.of_step (h : w.step task t e = some (w', t')) : Moves task t w e w' t' := by
  unfold Work.step at h
  split at h
  · cases h
    exact .start
  · cases h
    exact .sweep
  · simp only [Option.map_eq_some_iff, Prod.mk.injEq] at h
    obtain ⟨⟨progress', t''⟩, step, rfl, rfl⟩ := h
    exact .spawn (Spawning.step_eq_some.1 step)
  · simp only [Option.map_eq_some_iff, Prod.mk.injEq] at h
    obtain ⟨⟨pass', t''⟩, step, rfl, rfl⟩ := h
    exact .pass (Pass.step_eq_some.1 step)
  · cases h
    exact .started
  · cases h
    exact .swept
  · cases h

theorem Moves.inside (h : Moves task t w e w' t')
    (before : w.isInside = true ↔ t.holder = some task) :
    (w'.isInside = true ↔ t'.holder = some task) ∧
      ∀ other ≠ task, t'.holder = some other ↔ t.holder = some other := by
  cases h with
  | spawn moves => exact moves.inside before
  | pass moves => exact moves.inside before
  | start | sweep | started | swept => exact ⟨before, fun _ _ => Iff.rfl⟩

end Work

end PidOne
