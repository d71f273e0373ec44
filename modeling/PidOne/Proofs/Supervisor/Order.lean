import PidOne.Proofs.Holdings
import PidOne.Proofs.Supervisor.Answers

/-!
# The tasks of a supervisor at its table

The lock is with the task that is inside, if one is. A handle that the runner waits for has its
status, or its PID is tracked. A relay that is to stop does not sleep.
-/

namespace PidOne

namespace Table

/-- The status is there, or the table waits to hand it over. -/
inductive Owes (t : Table) (h : Handle) : Prop
  | waits (tracked : t.waiter? h.pid = some h.slot) (empty : t.slots[h.slot]? = some .waiting)
  | filled (there : t.slots[h.slot]? = some (.filled status))

variable {t : Table} {handle : Handle}

theorem Owes.tracked (h : t.Owes handle) (unanswered : t.poll handle = none) :
    t.isTracked handle.pid = true := by
  cases h with
  | waits tracked => exact isTracked_iff.2 ⟨_, tracked⟩
  | filled there => simp [poll, there, Slot.answer?] at unanswered

theorem Owes.hold (h : t.Owes handle) (holder : Option TaskId) :
    ({ t with holder }).Owes handle := by
  cases h with
  | waits tracked empty => exact .waits tracked empty
  | filled there => exact .filled there

theorem owes_register (t : Table) (pid : Pid) : (t.register pid).1.Owes (t.register pid).2 :=
  .waits (by simp [register, waiter?]) (by simp [register])

theorem Owes.collect (h : t.Owes handle) (status : ExitStatus) :
    (t.collect status).Owes handle := by
  cases h with
  | waits tracked empty =>
    by_cases mine : t.waiter? status.pid = some handle.slot
    · refine @filled _ _ status ?_
      rw [getElem?_slots_collect, if_pos mine, empty]
      rfl
    · refine .waits ?_ ?_
      · rw [waiter?_collect, if_neg]
        · exact tracked
        · intro same
          exact mine (same ▸ tracked)
      · rw [getElem?_slots_collect, if_neg mine, empty]
  | @filled before there =>
    refine @filled _ _ before ?_
    rw [getElem?_slots_collect, there]
    split <;> rfl

end Table

def Spawning.handle? : Spawning → Option Handle
  | .leaving (.ok handle) | .done (.ok handle) => some handle
  | _ => none

namespace Runner

/-- The handle of the command in progress, as soon as there is one. -/
def handle? : Runner → Option Handle
  | .spawning _ progress _ => progress.handle?
  | .waiting handle _ => some handle
  | _ => none

/-- A relay that is wound up has been asked to stop, and is awake to stop. -/
def Winds : Runner → Prop
  | .detaching _ relay => relay.stopRequested = true ∧ relay.asleep = false
  | _ => True

variable {task : TaskId} {t t' : Table} {r r' : Runner} {e : Event}

@[simp] theorem handle?_arrive (r : Runner) (s : Signal) : (r.arrive s).handle? = r.handle? := by
  unfold Runner.arrive
  split <;> rfl

@[simp] theorem handle?_register (r : Runner) : r.register.handle? = r.handle? := by
  unfold Runner.register
  split <;> rfl

theorem Winds.arrive (h : r.Winds) (s : Signal) : (r.arrive s).Winds := by
  cases r with
  | detaching answer relay =>
    refine ⟨by simpa using h.1, ?_⟩
    simp only [Relay.arrive]
    split
    · rfl
    · exact h.2
  | _ => trivial

theorem Winds.register (h : r.Winds) : r.register.Winds := by
  unfold Runner.register
  split
  · trivial
  · exact h

theorem Moves.winds (moves : Moves task t r e r' t') (h : r.Winds) : r'.Winds := by
  cases moves with
  | receive => exact ⟨rfl, rfl⟩
  | wind moves =>
    cases moves with
    | stop _ awake requested => exact ⟨requested, awake⟩
    | send _ _ goesOn | sleep _ _ goesOn => exact nomatch goesOn.symm.trans h.1
  | _ => trivial

theorem Moves.owes (moves : Moves task t r e r' t')
    (h : ∀ handle, r.handle? = some handle → t.Owes handle) :
    ∀ handle, r'.handle? = some handle → t'.Owes handle := by
  cases moves with
  | spawn moves =>
    cases moves with
    | register =>
      rintro handle ⟨⟩
      exact Table.owes_register t _
    | @unlock answer =>
      cases answer with
      | ok handle =>
        rintro _ ⟨⟩
        exact (h handle rfl).hold none
      | error => exact nofun
    | _ => exact nofun
  | launch | relay => exact h
  | _ => exact nofun

end Runner

theorem Reaper.Moves.owes {task : TaskId} {t t' : Table} {r r' : Reaper} {e : Event}
    {handle : Handle} (moves : Moves task t r e r' t') (h : t.Owes handle) : t'.Owes handle := by
  cases moves with
  | pass _ moves =>
    cases moves with
    | lock | unlock => exact h.hold _
    | collect => exact h.collect _
    | skip | close => exact h
  | rest | stop | timer | childEnded => exact h

namespace Supervisor

/-- What the reaper does at the table. -/
def reaping (s : Supervisor) : Work := (s.reaper.map fun r => (User.reaper r).work).getD .idle

def spawning (s : Supervisor) : Work := (User.runner s.runner).work

structure Locks (s : Supervisor) : Prop where
  runner : s.spawning.isInside = true ↔ s.table.holder = some mainTask
  reaper : s.reaping.isInside = true ↔ s.table.holder = some reaperTask
  nobody : ∀ task, s.table.holder = some task → task = mainTask ∨ task = reaperTask

structure Orderly (s : Supervisor) : Prop where
  staged : s.Staged
  locks : s.Locks
  owes : ∀ handle, s.runner.handle? = some handle → s.table.Owes handle
  winds : s.runner.Winds

variable {s s' : Supervisor} {e : Event} {es : List Event}

theorem Locks.same (h : s.Locks) (table : s'.table = s.table)
    (spawning : s'.spawning.isInside = s.spawning.isInside)
    (reaping : s'.reaping.isInside = s.reaping.isInside) : s'.Locks := by
  constructor
  · rw [spawning, table, h.runner]
  · rw [reaping, table, h.reaper]
  · rw [table]
    exact h.nobody

theorem isInside_of_isIdle (h : s.runner.IsIdle) : s.spawning.isInside = false := by
  obtain ⟨receivers, idle⟩ := h
  rw [spawning, idle]
  rfl

theorem Locks.moves (h : s.Locks) (staged : s.Staged) (moves : Moves s e s') : s'.Locks := by
  cases moves with
  | log | adoptOrphans => exact h.same rfl rfl rfl
  | receiveSignals head =>
    refine h.same rfl ?_ rfl
    have idle := staged.idle (by simp [head])
    rw [isInside_of_isIdle idle, isInside_of_isIdle idle.register]
  | startReaper head =>
    refine h.same rfl rfl ?_
    cases staged with
    | opening _ gone | closing _ gone =>
      rw [reaping, reaping, gone]
      rfl
    | running ahead =>
      rw [head] at ahead
      exact ahead.elim
  | begin _ idle =>
    refine h.same rfl ?_ rfl
    rw [isInside_of_isIdle ⟨_, idle⟩]
    rfl
  | finish _ finished =>
    refine h.same rfl ?_ rfl
    rw [spawning, spawning, finished]
    rfl
  | requestStop _ there =>
    refine h.same rfl rfl ?_
    rw [reaping, reaping, there]
    rfl
  | stopped head ended =>
    refine h.same rfl rfl ?_
    cases there : s.reaper with
    | none => rw [reaping, reaping, there]
    | some r =>
      have ended := Reaper.hasEnded_iff.1 (ended r there)
      simp [reaping, there, User.work, ended]
  | runner _ _ moves =>
    obtain ⟨mine, others⟩ := (User.Moves.of_runner moves).inside h.runner
    refine ⟨mine, ?_, ?_⟩
    · rw [others reaperTask (by decide)]
      exact h.reaper
    · intro task held
      by_cases main : task = mainTask
      · exact .inl main
      · exact h.nobody task ((others task main).1 held)
  | reaper there moves =>
    have inside := h.reaper
    rw [reaping, there] at inside
    obtain ⟨mine, others⟩ := (User.Moves.of_reaper moves).inside inside
    refine ⟨?_, mine, ?_⟩
    · rw [others mainTask (by decide)]
      exact h.runner
    · intro task held
      by_cases own : task = reaperTask
      · exact .inr own
      · exact h.nobody task ((others task own).1 held)
  | @signal x =>
    refine h.same rfl ?_ ?_
    · exact congrArg Work.isInside (User.work_arrive (.runner s.runner) x)
    · cases there : s.reaper with
      | none =>
        rw [reaping, reaping, there]
        rfl
      | some r =>
        rw [reaping, reaping, there]
        exact congrArg Work.isInside (User.work_arrive (.reaper r) x)

theorem Orderly.start (config : Config) (version : String) (self : Pid) :
    (start config version self).Orderly where
  staged := .start config version self
  locks := ⟨⟨nofun, nofun⟩, ⟨nofun, nofun⟩, nofun⟩
  owes := nofun
  winds := trivial

theorem Orderly.moves (h : s.Orderly) (moves : Moves s e s') : s'.Orderly where
  staged := h.staged.moves moves
  locks := h.locks.moves h.staged moves
  owes := by
    cases moves with
    | log | adoptOrphans | startReaper | requestStop | stopped => exact h.owes
    | receiveSignals =>
      intro handle issued
      exact h.owes handle (by simpa using issued)
    | begin | finish => exact nofun
    | runner _ _ moves => exact moves.owes h.owes
    | reaper _ moves => exact fun handle issued => moves.owes (h.owes handle issued)
    | signal =>
      intro handle issued
      exact h.owes handle (by simpa using issued)
  winds := by
    cases moves with
    | log | adoptOrphans | startReaper | requestStop | stopped | reaper => exact h.winds
    | receiveSignals => exact h.winds.register
    | begin | finish => trivial
    | runner _ _ moves => exact moves.winds h.winds
    | signal => exact h.winds.arrive _

end Supervisor

end PidOne
