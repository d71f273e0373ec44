import PidOne.Proofs.Run
import PidOne.Proofs.Sharing.Invariant

/-!
# Preservation

Each step keeps the invariant of a shared table, so it holds along every run.
-/

namespace PidOne.Shared

open Kernel

variable {s s' : Shared} {task other : TaskId} {e : Event} {t' : Table} {k' : Children}

theorem exists_of_mem_left {α β : Type} {R : α → β → Prop} {as : List α} {bs : List β} {a : α}
    (h : List.Forall₂ R as bs) (ha : a ∈ as) : ∃ b ∈ bs, R a b := by
  induction h with
  | nil => cases ha
  | cons hab _ ih =>
    rcases List.mem_cons.1 ha with rfl | ha
    · exact ⟨_, .head _, hab⟩
    · obtain ⟨b, hb, h⟩ := ih ha
      exact ⟨b, .tail _ hb, h⟩

theorem Inv.collected (h : s.Inv) {i : ChildId} (hi : i ∈ (s.tasks task).collected) :
    ∃ c e, s.children i = some c ∧ c.life = .collected e := by
  cases busy : s.tasks task with
  | reaping pass ids =>
    rw [busy] at hi
    obtain ⟨status, _, c, e, hc, life, _⟩ := exists_of_mem_left (h.fits_pass busy).2 hi
    exact ⟨c, e, hc, life⟩
  | idle | starting =>
    rw [busy] at hi
    cases hi

/-- A child that the kernel keeps is on the list of no pass. -/
theorem Inv.not_collected (h : s.Inv) {i : ChildId} {c : Child} (known : s.children i = some c)
    (kept : c.life.isOver = false) (task : TaskId) : i ∉ (s.tasks task).collected := by
  intro hi
  obtain ⟨d, e, hd, life⟩ := h.collected hi
  obtain rfl := Option.some.inj (known.symm.trans hd)
  simp [life, Life.isOver] at kept

/-- While a task is inside or enters, the others are outside, where nothing is at stake. -/
theorem Inv.fits_other (h : s.Inv) (hs : Persists s s')
    (alone : s.table.holder = none ∨ (s.tasks task).isInside = true) (ne : other ≠ task) :
    s'.Fits (s.tasks other) := by
  refine (h.fits other).persists ?_ hs
  by_contra inside
  rw [Bool.not_eq_false] at inside
  rcases alone with free | busy
  · simp [(h.exclusive other).1 inside] at free
  · exact ne (h.mutual_exclusion inside busy)

theorem Inv.exclusive_update (h : s.Inv) {work : Task} {holder : Option TaskId}
    (own : work.isInside = true ↔ holder = some task)
    (others : ∀ other ≠ task, holder = some other ↔ s.table.holder = some other)
    (other : TaskId) :
    (Function.update s.tasks task work other).isInside = true ↔ holder = some other := by
  by_cases ho : other = task
  · rw [ho, Function.update_self, own]
  · rw [Function.update_of_ne ho, others other ho, h.exclusive]

/-- What a pass adds to its list was on no list before. -/
theorem Inv.once_update (h : s.Inv) {work : Task}
    (new : ∀ i ∈ work.collected, i ∈ (s.tasks task).collected ∨
      ∀ other, i ∉ (s.tasks other).collected)
    (a b : TaskId) (i : ChildId) (ha : i ∈ (Function.update s.tasks task work a).collected)
    (hb : i ∈ (Function.update s.tasks task work b).collected) : a = b := by
  rw [Function.update_apply] at ha hb
  split at ha <;> split at hb
  · simp_all
  · subst a
    rcases new i ha with old | fresh
    · exact h.once _ _ i old hb
    · exact absurd hb (fresh b)
  · subst b
    rcases new i hb with old | fresh
    · exact h.once _ _ i ha old
    · exact absurd ha (fresh a)
  · exact h.once _ _ i ha hb

/-- The step of a start keeps table, children and handles in agreement, and says what it has come
to. -/
theorem Inv.spawn (h : s.Inv) {progress progress' : Spawning} {child child' : Option ChildId}
    {event : Spawning.Event} (fits : s.FitsStart child progress)
    (moves : Spawning.Moves task s.table progress event progress' t')
    (kernel : Starts s.children child event child' k') :
    Agree t' k' (issue s.tickets event progress' child') ∧
      FitsStart { s with
        table := t'
        children := k'
        tickets := issue s.tickets event progress' child' } child' progress' := by
  cases moves with
  | lock =>
    cases kernel
    exact ⟨h.agree.hold _, fits⟩
  | @fork pid =>
    cases kernel with
    | fork fresh free =>
      have other := h.agree.ne_of_fresh fresh
      exact ⟨h.agree.set_other other _, _, rfl, _, Children.set_self .., rfl, rfl, rfl, other⟩
  | refuse =>
    cases kernel
    exact ⟨h.agree, nofun⟩
  | exec =>
    cases kernel
    exact ⟨h.agree, fits⟩
  | fail =>
    cases kernel
    exact ⟨h.agree, ⟨_, rfl⟩, fits⟩
  | discard =>
    obtain ⟨_, i, hi, d, _, _, _, _, other⟩ := fits
    cases kernel with
    | discard known ended =>
      cases hi
      refine ⟨h.agree.set_other other _, fun j hj => ?_⟩
      cases hj
      exact ⟨_, Children.set_self .., rfl⟩
  | register =>
    obtain ⟨i, rfl, c, known, own, rfl, kept, other⟩ := fits
    cases kernel
    have agree := h.agree.register h.distinct known own kept other
    have given := List.getElem?_concat_length (l := s.tickets)
      (a := ⟨(s.table.register c.pid).2, i, .issuing⟩)
    obtain ⟨_, _, b⟩ := agree.backs _ _ given
    exact ⟨agree, i, rfl, b.number ▸ given⟩
  | @unlock answer =>
    cases kernel
    cases answer with
    | error cause => exact ⟨h.agree.hold _, fits⟩
    | ok handle =>
      obtain ⟨i, rfl, given⟩ := fits
      refine ⟨(h.agree.give given rfl).hold _, i, .held, rfl, nofun, ?_⟩
      simp [issue, given, Ticket.pass]

theorem Yields.collect {i j : ChildId} {c : Child} {e : Ending} {status : ExitStatus}
    (h : s.Yields i status) (known : s.children j = some c) (ended : c.life = .ended e) :
    Yields { s with table := t', children := s.children.set j { c with life := .collected e } } i
      status := by
  obtain ⟨d, e', hd, life, rfl⟩ := h
  have past : d.life.isOver = true := by simp [life, Life.isOver]
  exact ⟨d, e', Children.set_past (by simp [known, ended, Life.isOver]) hd past, life, rfl⟩

theorem Inv.pass (h : s.Inv) {pass pass' : Pass} {ids : List ChildId} {child : Option ChildId}
    {event : Pass.Event} (busy : s.tasks task = .reaping pass ids)
    (moves : Pass.Moves task s.table pass event pass' t')
    (kernel : Passes s.children event child k') :
    Agree t' k' s.tickets ∧
      Fits { s with table := t', children := k' } (.reaping pass' (ids ++ child.toList)) := by
  have fits := h.fits_pass busy
  cases moves with
  | lock =>
    cases kernel
    exact ⟨h.agree.hold _, (List.append_nil ids).symm ▸ fits⟩
  | collect reported =>
    cases kernel with
    | wait answers =>
      obtain ⟨i, c, e, rfl, known, ended, rfl, rfl⟩ := answers.of_status? reported
      have kept : c.life.isOver = false := by simp [ended, Life.isOver]
      have new : i ∉ ids := by simpa [busy, Task.collected] using h.not_collected known kept task
      refine ⟨h.agree.collect h.distinct known kept e, ?_, ?_⟩
      · simpa [List.nodup_append, Ne, eq_comm] using ⟨fits.1, fun j hj hij => new (hij ▸ hj)⟩
      · refine List.rel_append (fits.2.imp fun _ _ hy => hy.collect known ended) ?_
        exact .cons ⟨_, e, Children.set_self .., rfl, rfl⟩ .nil
  | skip nothing =>
    cases kernel with
    | wait answers =>
      obtain ⟨rfl, rfl⟩ := answers.of_status?_eq_none nothing
      exact ⟨h.agree, (List.append_nil ids).symm ▸ fits⟩
  | close closes =>
    cases kernel with
    | wait answers =>
      obtain ⟨rfl, rfl⟩ :=
        answers.of_status?_eq_none (WaitAnswer.status?_eq_none_of_closes closes)
      exact ⟨h.agree, (List.append_nil ids).symm ▸ fits⟩
  | unlock =>
    cases kernel
    exact ⟨h.agree.hold _, (List.append_nil ids).symm ▸ fits⟩

/-- Steps that change no task's part leave it to the children and the handles. -/
theorem Inv.respects (h : s.Inv) (hs : Respects s s') (tasks : s'.tasks = s.tasks)
    (holder : s'.table.holder = s.table.holder) (distinct : s'.children.Distinct)
    (agree : Agree s'.table s'.children s'.tickets) : s'.Inv where
  exclusive := by simpa [tasks, holder] using h.exclusive
  distinct := distinct
  agree := agree
  fits task := tasks ▸ (h.fits task).respects hs
  once := by simpa [tasks] using h.once

theorem Inv.step (h : s.Inv) (step : Step s e s') : s'.Inv := by
  have hs := step.persists
  cases step with
  | @begin task work idle new =>
    refine ⟨h.exclusive_update ?_ (fun _ _ => .rfl), h.distinct, h.agree, fun other => ?_,
      h.once_update ?_⟩
    · have outside := h.exclusive task
      rcases new with rfl | rfl <;> simpa [idle, assign, Task.isInside, Spawning.isInside,
        Pass.isInside] using outside
    · by_cases ho : other = task
      · rw [ho, tasks_assign_self]
        rcases new with rfl | rfl
        · rfl
        · exact ⟨.nil, .nil⟩
      · rw [tasks_assign_of_ne _ ho]
        exact h.fits other
    · rcases new with rfl | rfl <;> simp [Task.collected]
  | @spawn task progress child event progress' t' child' k' busy moves kernel =>
    -- What the task is about is settled by `Inv.spawn`; the others are outside meanwhile.
    rw [Spawning.step_eq_some] at moves
    have inside : progress.isInside = true ↔ s.table.holder = some task := by
      simpa [busy, Task.isInside] using h.exclusive task
    obtain ⟨own, others⟩ := moves.inside inside
    obtain ⟨agree, fits⟩ := h.spawn (h.fits_start busy) moves kernel
    refine ⟨h.exclusive_update own others, kernel.distinct h.distinct, agree, fun other => ?_,
      h.once_update (by simp [Task.collected])⟩
    by_cases ho : other = task
    · rw [ho, tasks_assign_self]
      exact fits
    · rw [tasks_assign_of_ne _ ho]
      refine h.fits_other hs ?_ ho
      simpa [busy, Task.isInside] using moves.free_or_inside
  | @pass task pass ids event pass' t' child k' busy moves kernel =>
    rw [Pass.step_eq_some] at moves
    have inside : pass.isInside = true ↔ s.table.holder = some task := by
      simpa [busy, Task.isInside] using h.exclusive task
    obtain ⟨own, others⟩ := moves.inside inside
    obtain ⟨agree, fits⟩ := h.pass busy moves kernel
    refine ⟨h.exclusive_update own others, kernel.distinct h.distinct, agree, fun other => ?_,
      h.once_update ?_⟩
    · by_cases ho : other = task
      · rw [ho, tasks_assign_self]
        exact fits
      · rw [tasks_assign_of_ne _ ho]
        refine h.fits_other hs ?_ ho
        simpa [busy, Task.isInside] using moves.free_or_inside
    · intro i hi
      simp only [Task.collected, List.mem_append, Option.mem_toList] at hi
      rcases hi with hi | rfl
      · exact .inl (by rwa [busy])
      · obtain ⟨c, known, kept⟩ := kernel.collects
        exact .inr (h.not_collected known kept)
  | kernel changes =>
    refine h.respects (.of_changes changes) rfl rfl (changes.distinct h.distinct) ?_
    cases changes with
    | exit known running =>
      exact h.agree.exit known (by simp [running, Life.isOver]) rfl
    | adopt fresh => exact h.agree.set_other (h.agree.ne_of_fresh fresh) _
  | receive given held answers =>
    exact h.respects (.of_custody given held _ (by simp)) rfl rfl h.distinct
      (h.agree.receive given held answers)
  | drop given held =>
    exact h.respects (.of_custody given held _ (by simp)) rfl rfl h.distinct (h.agree.drop given held)

theorem Inv.run {es : List Event} (run : Run Step {} es s) : s.Inv := run.keeps Inv.step .start

end PidOne.Shared
