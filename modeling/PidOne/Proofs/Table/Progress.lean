import PidOne.Table.Pass
import PidOne.Table.Spawning

/-!
# The steps of starts and passes

Each step that the start of a command or a pass can take, with what it does to the table.
-/

namespace PidOne

/-- How far the start of a command goes in one step, and what it does to the table. -/
inductive Spawning.Moves (task : TaskId) (t : Table) :
    Spawning → Spawning.Event → Spawning → Table → Prop
  | lock (free : t.holder = none) :
    Moves task t .queued .lock .locked { t with holder := some task }
  | fork : Moves task t .locked (.fork (.ok pid)) (.forked pid) t
  | refuse : Moves task t .locked (.fork (.error cause)) (.leaving (.error cause)) t
  | exec : Moves task t (.forked pid) (.exec none) (.executing pid) t
  | fail : Moves task t (.forked pid) (.exec (some number)) (.failed pid (.errno number)) t
  | discard : Moves task t (.failed pid cause) .discard (.leaving (.error cause)) t
  | register :
    Moves task t (.executing pid) .register (.leaving (.ok (t.register pid).2)) (t.register pid).1
  | unlock (held : t.holder = some task) :
    Moves task t (.leaving answer) .unlock (.done answer) { t with holder := none }

inductive Pass.Moves (task : TaskId) (t : Table) : Pass → Pass.Event → Pass → Table → Prop
  | lock (free : t.holder = none) :
    Moves task t .queued .lock (.collecting []) { t with holder := some task }
  | collect (h : answer.status? = some status) :
    Moves task t (.collecting statuses) (.wait answer) (.collecting (statuses ++ [status]))
      (t.collect status)
  | skip (h : answer.status? = none) (goesOn : answer.closes = false) :
    Moves task t (.collecting statuses) (.wait answer) (.collecting statuses) t
  | close (h : answer.closes = true) :
    Moves task t (.collecting statuses) (.wait answer) (.leaving statuses) t
  | unlock (held : t.holder = some task) :
    Moves task t (.leaving statuses) .unlock (.done statuses) { t with holder := none }

theorem Table.lock?_eq_some {t t' : Table} {task : TaskId} :
    t.lock? task = some t' ↔ t.holder = none ∧ t' = { t with holder := some task } := by
  cases h : t.holder <;> simp [Table.lock?, h, eq_comm]

theorem Table.unlock?_eq_some {t t' : Table} {task : TaskId} :
    t.unlock? task = some t' ↔ t.holder = some task ∧ t' = { t with holder := none } := by
  simp only [Table.unlock?]
  split <;> simp_all [eq_comm]

theorem Spawning.step_eq_some {task : TaskId} {t t' : Table} {p p' : Spawning}
    {e : Spawning.Event} :
    p.step task t e = some (p', t') ↔ Spawning.Moves task t p e p' t' := by
  constructor
  · intro h
    unfold Spawning.step at h
    split at h
    · simp only [Option.map_eq_some_iff, Prod.mk.injEq, Table.lock?_eq_some] at h
      obtain ⟨_, ⟨free, rfl⟩, rfl, rfl⟩ := h
      exact .lock free
    · cases h
      exact .fork
    · cases h
      exact .refuse
    · cases h
      exact .exec
    · cases h
      exact .fail
    · cases h
      exact .discard
    · cases h
      exact .register
    · simp only [Option.map_eq_some_iff, Prod.mk.injEq, Table.unlock?_eq_some] at h
      obtain ⟨_, ⟨held, rfl⟩, rfl, rfl⟩ := h
      exact .unlock held
    · cases h
  · intro h
    cases h with
    | lock free => simp [Spawning.step, Table.lock?, free]
    | unlock held => simp [Spawning.step, Table.unlock?, held]
    | _ => rfl

theorem WaitAnswer.status?_eq_none_of_closes {answer : WaitAnswer} (h : answer.closes = true) :
    answer.status? = none := by
  cases answer <;> simp_all [WaitAnswer.closes, WaitAnswer.status?]

theorem Pass.step_eq_some {task : TaskId} {t t' : Table} {p p' : Pass} {e : Pass.Event} :
    p.step task t e = some (p', t') ↔ Pass.Moves task t p e p' t' := by
  constructor
  · intro h
    unfold Pass.step at h
    split at h
    · simp only [Option.map_eq_some_iff, Prod.mk.injEq, Table.lock?_eq_some] at h
      obtain ⟨_, ⟨free, rfl⟩, rfl, rfl⟩ := h
      exact .lock free
    · split at h
      · cases h
        exact .close ‹_›
      · split at h <;> cases h
        · exact .collect ‹_›
        · exact .skip ‹_› (Bool.eq_false_iff.2 ‹_›)
    · simp only [Option.map_eq_some_iff, Prod.mk.injEq, Table.unlock?_eq_some] at h
      obtain ⟨_, ⟨held, rfl⟩, rfl, rfl⟩ := h
      exact .unlock held
    · cases h
  · intro h
    cases h with
    | lock free => simp [Pass.step, Table.lock?, free]
    | @collect _ _ answer h =>
      cases hc : answer.closes with
      | false => simp [Pass.step, h, hc]
      | true => simp [WaitAnswer.status?_eq_none_of_closes hc] at h
    | skip h goesOn => simp [Pass.step, h, goesOn]
    | close h => simp [Pass.step, h]
    | unlock held => simp [Pass.step, Table.unlock?, held]

end PidOne
