import PidOne.Proofs.Sharing.Atomicity

/-!
# What a table tracks

A table tracks the PIDs of the children that starts have registered and no pass has collected, and
no others. So a start finds no other command under its PID, and a table whose commands have all
been collected is empty.
-/

namespace PidOne.Shared

open Kernel

/-- How the waiters of a table may change in one step. -/
inductive Remaps (t : Table) : Event → Table → Prop
  | keep (same : t'.waiters = t.waiters) : Remaps t e t'
  | register (free : t.waiter? pid = none) :
    Remaps t (.spawn task .register) (t.register pid).1
  | collect (reported : answer.status? = some status) :
    Remaps t (.pass task (.wait answer)) (t.collect status)

variable {s s' s₁ s₂ : Shared} {task other : TaskId} {es : List Event} {e : Event} {i : ChildId}
variable {c : Child} {n : Nat} {ticket : Ticket} {pid : Pid} {t' : Table}

theorem Inv.waiter?_unregistered (h : s.Inv) (unregistered : s.Unregistered i pid) :
    s.table.waiter? pid = none := by
  obtain ⟨c, known, _, rfl, kept, other⟩ := unregistered
  exact h.agree.waiter?_eq_none h.distinct known kept other

theorem Inv.remaps (h : s.Inv) (step : Step s e s') : Remaps s.table e s'.table := by
  cases step with
  | begin | kernel | receive | drop => exact .keep rfl
  | spawn busy moves kernel =>
    have fits := h.fits_start busy
    cases Spawning.step_eq_some.1 moves with
    | register =>
      obtain ⟨i, _, unregistered⟩ := fits
      exact .register (h.waiter?_unregistered unregistered)
    | _ => exact .keep rfl
  | pass busy moves kernel =>
    cases Pass.step_eq_some.1 moves with
    | collect reported => exact .collect reported
    | _ => exact .keep rfl

theorem Remaps.keyed {t : Table} (h : Remaps t e t') (keyed : t.Keyed) : t'.Keyed := by
  cases h with
  | keep same => rwa [Table.Keyed, same]
  | register free => exact keyed.register free
  | collect => exact keyed.collect

theorem keyed_of_run (run : Run Step {} es s) : s.table.Keyed := by
  have both := run.keeps (P := fun s => s.Inv ∧ s.table.Keyed)
    (fun h step => ⟨h.1.step step, (h.1.remaps step).keyed h.2⟩) ⟨.start, .nil⟩
  exact both.2

/-- On the way to this state a start has succeeded in starting this child. -/
def Started (es : List Event) (s : Shared) (i : ChildId) : Prop :=
  ∃ before task after t t' handle, es = before ++ .spawn task .register :: after ∧
    Run Step {} before t ∧ Step t (.spawn task .register) t' ∧ Run Step t' after s ∧
      t'.tasks task = .starting (.leaving (.ok handle)) (some i)

def HasTicket (s : Shared) (i : ChildId) : Prop := ∃ ticket ∈ s.tickets, ticket.child = i

theorem HasTicket.step (h : s.HasTicket i) (step : Step s e s') : s'.HasTicket i := by
  obtain ⟨ticket, hticket, hchild⟩ := h
  obtain ⟨n, hn⟩ := List.getElem?_of_mem hticket
  obtain ⟨custody, hn', _⟩ := step.persists.given n ticket hn
  exact ⟨_, List.mem_of_getElem? hn', hchild⟩

theorem mem_modify {tickets : List Ticket} {m : Nat} {custody : Custody}
    (h : ticket ∈ tickets.modify m (.pass custody)) :
    ∃ old ∈ tickets, ticket = old ∨ ticket = old.pass custody := by
  obtain ⟨n, hn⟩ := List.getElem?_of_mem h
  rw [List.getElem?_modify, Option.map_eq_map, Option.map_eq_some_iff] at hn
  obtain ⟨old, hold, rfl⟩ := hn
  refine ⟨old, List.mem_of_getElem? hold, ?_⟩
  split
  · exact .inr rfl
  · exact .inl rfl

theorem mem_issue {tickets : List Ticket} {event : Spawning.Event} {progress : Spawning}
    {child : Option ChildId} (h : ticket ∈ issue tickets event progress child) :
    (∃ old ∈ tickets, ticket = old ∨ ticket = old.pass .held) ∨
      event = .register ∧ progress = .leaving (.ok ticket.handle) ∧ child = some ticket.child ∧
        ticket.custody = .issuing := by
  unfold issue at h
  split at h
  · rcases List.mem_append.1 h with old | new
    · exact .inl ⟨ticket, old, .inl rfl⟩
    · obtain rfl := List.mem_singleton.1 new
      exact .inr ⟨rfl, rfl, rfl, rfl⟩
  · exact .inl (mem_modify h)
  · exact .inl ⟨ticket, h, .inl rfl⟩

theorem Step.of_new_ticket (step : Step s e s') (before : ¬s.HasTicket i) (after : s'.HasTicket i) :
    ∃ task handle, e = .spawn task .register ∧
      s'.tasks task = .starting (.leaving (.ok handle)) (some i) := by
  have old {custody : Custody} (ticket : Ticket) (hchild : ticket.child = i)
      (given : ∃ old ∈ s.tickets, ticket = old ∨ ticket = old.pass custody) : s.HasTicket i := by
    obtain ⟨old, hold, same⟩ := given
    refine ⟨old, hold, ?_⟩
    rcases same with rfl | rfl <;> exact hchild
  obtain ⟨ticket, hticket, hchild⟩ := after
  cases step with
  | begin | pass | kernel => exact absurd ⟨ticket, hticket, hchild⟩ before
  | receive | drop => exact absurd (old ticket hchild (mem_modify hticket)) before
  | spawn busy moves kernel =>
    rcases mem_issue hticket with given | ⟨rfl, rfl, rfl, _⟩
    · exact absurd (old ticket hchild given) before
    · exact ⟨_, _, rfl, by rw [← hchild]; exact tasks_assign_self ..⟩

theorem started_iff (run : Run Step {} es s) : Started es s i ↔ s.HasTicket i := by
  constructor
  · rintro ⟨before, task, after, t, t', handle, rfl, first, step, rest, busy⟩
    obtain ⟨j, hj, given⟩ := (Inv.run (first.append (.single step))).fits_start busy
    cases hj
    exact rest.keeps (P := (HasTicket · i)) (fun h step => h.step step)
      ⟨_, List.mem_of_getElem? given, rfl⟩
  · intro given
    -- The step in which the child got its handle is the one that registered it.
    have start : ¬HasTicket {} i := by
      rintro ⟨ticket, hticket, _⟩
      cases hticket
    obtain ⟨before, e, after, t, t', rfl, first, new, step, given', rest⟩ :=
      run.since (P := (HasTicket · i)) start given
    obtain ⟨task, handle, rfl, busy⟩ := step.of_new_ticket new given'
    exact ⟨before, task, after, t, t', handle, rfl, first, step, rest.mono fun h => h.2.1, busy⟩

theorem Settles.isOver_iff {pid life custody slot} (h : Settles pid life custody slot) :
    life.isOver = false ↔ ∀ e, life ≠ .collected e := by
  cases h with
  | waiting kept => cases life <;> simp_all [Life.isOver]
  | unwanted launched => cases life <;> simp_all [Life.isOver]
  | filled => simp [Life.isOver]

theorem Inv.kept_iff (h : s.Inv) (given : s.HasTicket i) (known : s.children i = some c) :
    c.life.isOver = false ↔ ∀ e, c.life ≠ .collected e := by
  obtain ⟨ticket, hticket, rfl⟩ := given
  obtain ⟨n, hn⟩ := List.getElem?_of_mem hticket
  obtain ⟨d, slot, b⟩ := h.agree.backs n ticket hn
  obtain rfl := Option.some.inj (b.known.symm.trans known)
  exact b.settles.isOver_iff

theorem Inv.tracked_iff (h : s.Inv) : s.table.isTracked pid = true ↔
    ∃ i c, s.HasTicket i ∧ s.children i = some c ∧ c.pid = pid ∧ ∀ e, c.life ≠ .collected e := by
  rw [Table.isTracked_iff]
  constructor
  · rintro ⟨n, hn⟩
    obtain ⟨ticket, c, given, rfl, known, kept⟩ := (h.agree.waits pid n).1 hn
    obtain ⟨d, slot, b⟩ := h.agree.backs n ticket given
    obtain rfl := Option.some.inj (b.known.symm.trans known)
    have has : s.HasTicket ticket.child := ⟨ticket, List.mem_of_getElem? given, rfl⟩
    exact ⟨ticket.child, d, has, known, b.pid, (h.kept_iff has known).1 kept⟩
  · rintro ⟨i, c, has, known, rfl, uncollected⟩
    have kept := (h.kept_iff has known).2 uncollected
    obtain ⟨ticket, hticket, rfl⟩ := has
    obtain ⟨n, given⟩ := List.getElem?_of_mem hticket
    obtain ⟨d, slot, b⟩ := h.agree.backs n ticket given
    obtain rfl := Option.some.inj (b.known.symm.trans known)
    exact ⟨n, (h.agree.waits d.pid n).2 ⟨ticket, d, given, b.pid.symm, known, kept⟩⟩

theorem Inv.registers (h : s.Inv) (step : Step s (.spawn task .register) s') : ∃ pid,
    s.table.isTracked pid = false ∧
      s'.table.waiters = (pid, s.table.slots.length) :: s.table.waiters ∧
        s'.table.slots = s.table.slots ++ [.waiting] := by
  cases step with
  | spawn busy moves kernel =>
    have fits := h.fits_start busy
    cases Spawning.step_eq_some.1 moves with
    | @register pid =>
      obtain ⟨i, _, unregistered⟩ := fits
      have free := h.waiter?_unregistered unregistered
      refine ⟨pid, ?_, ?_⟩
      · rw [← Bool.not_eq_true, Table.isTracked_iff]
        simp [free]
      · simp [assign, Table.register_of_waiter?_eq_none free]

theorem Inv.released (h : s.Inv) (keyed : s.table.Keyed) (given : s.tickets[n]? = some ticket)
    (known : s.children ticket.child = some c) (past : c.life.isOver = true) :
    (pid, n) ∉ s.table.waiters := by
  intro hn
  obtain ⟨ticket', c', given', _, known', kept⟩ := (h.agree.waits pid n).1 (keyed.mem_iff.1 hn)
  obtain rfl := Option.some.inj (given.symm.trans given')
  obtain rfl := Option.some.inj (known.symm.trans known')
  cases kept.symm.trans past

theorem Inv.hasTicket_of_tracked (h : s.Inv) (known : s.children i = some c)
    (kept : c.life.isOver = false) (tracked : s.table.isTracked c.pid = true) : s.HasTicket i := by
  obtain ⟨j, d, has, known', hpid, uncollected⟩ := h.tracked_iff.1 tracked
  have same := h.distinct j i d c known' known hpid ((h.kept_iff has known').2 uncollected) kept
  exact same ▸ has

/-- Nobody else takes a step that needs the lock while this task is inside. -/
theorem Inv.eq_of_inside (h : s.Inv) (inside : (s.tasks task).isInside = true)
    (moves : s.table.holder = none ∨ (s.tasks other).isInside = true) : other = task := by
  rcases moves with free | inside'
  · simp [(h.exclusive task).1 inside] at free
  · exact h.mutual_exclusion inside' inside

theorem Inv.step_of_start (h : s.Inv) {progress : Spawning} {child : Option ChildId}
    (busy : s.tasks task = .starting progress child) (step : Step s e s') :
    (∃ event, e = .spawn task event) ∨ s'.tasks task = s.tasks task ∧
      (progress.isInside = true → s'.table.waiters = s.table.waiters) := by
  have inside : progress.isInside = true → (s.tasks task).isInside = true := by
    rw [busy]
    exact id
  cases step with
  | @begin other _ idle =>
    refine .inr ⟨tasks_assign_of_ne _ ?_ _, fun _ => rfl⟩
    rintro rfl
    cases busy.symm.trans idle
  | kernel | receive | drop => exact .inr ⟨rfl, fun _ => rfl⟩
  | @spawn other _ _ event _ _ _ _ busy' moves =>
    by_cases ho : task = other
    · exact .inl ⟨event, by rw [ho]⟩
    · refine .inr ⟨tasks_assign_of_ne _ ho _, fun hi => absurd ?_ (Ne.symm ho)⟩
      refine h.eq_of_inside (inside hi) ?_
      simpa [busy', Task.isInside] using (Spawning.step_eq_some.1 moves).free_or_inside
  | @pass other _ _ _ _ _ _ _ busy' moves =>
    have ho : task ≠ other := by
      rintro rfl
      cases busy.symm.trans busy'
    refine .inr ⟨tasks_assign_of_ne _ ho _, fun hi => absurd ?_ (Ne.symm ho)⟩
    refine h.eq_of_inside (inside hi) ?_
    simpa [busy', Task.isInside] using (Pass.step_eq_some.1 moves).free_or_inside

/-- This start has got the lock, and as long as it has it and has registered nothing, these are the
waiters. -/
def Withholds (task : TaskId) (waiters : List (Pid × Nat)) (s : Shared) : Prop :=
  ∃ progress child, s.tasks task = .starting progress child ∧ ¬(progress matches .queued) ∧
    (progress.isInside = true → progress.hasRegistered = false → s.table.waiters = waiters)

theorem Withholds.step {waiters : List (Pid × Nat)} (w : Withholds task waiters s) (h : s.Inv)
    (step : Step s e s') : Withholds task waiters s' := by
  obtain ⟨progress, child, busy, past, same⟩ := w
  -- While a start is inside, only its own steps change the waiters.
  rcases h.step_of_start busy step with ⟨event, rfl⟩ | ⟨tasks, alone⟩
  · cases step with
    | spawn busy' moves =>
      cases busy.symm.trans busy'
      refine ⟨_, _, tasks_assign_self .., ?_⟩
      cases Spawning.step_eq_some.1 moves with
      | lock => exact absurd rfl past
      | register => exact ⟨nofun, fun _ unregistered => by cases unregistered⟩
      | unlock => exact ⟨nofun, fun inside => by cases inside⟩
      | _ => exact ⟨nofun, fun _ _ => same rfl rfl⟩
  · refine ⟨progress, child, tasks.trans busy, past, fun inside unregistered => ?_⟩
    rw [alone inside, same inside unregistered]

/-- A start that fails leaves the waiters, from lock to unlock, as they were. -/
theorem Inv.failed_start (h : s.Inv) {cause : Cause} {child : Option ChildId}
    (enters : Step s (.spawn task .lock) s₁) (run : Run Step s₁ es s₂)
    (leaves : Step s₂ (.spawn task .unlock) s')
    (failed : s'.tasks task = .starting (.done (.error cause)) child) :
    s'.table.waiters = s.table.waiters := by
  have withholds : Withholds task s.table.waiters s₁ := by
    cases enters with
    | spawn busy moves =>
      refine ⟨_, _, tasks_assign_self .., ?_⟩
      cases Spawning.step_eq_some.1 moves with
      | lock => exact ⟨nofun, fun _ _ => rfl⟩
  obtain ⟨_, progress, child', busy, _, same⟩ :=
    run.keeps (P := fun u => u.Inv ∧ Withholds task s.table.waiters u)
      (fun w step => ⟨w.1.step step, w.2.step w.1 step⟩) ⟨h.step enters, withholds⟩
  cases leaves with
  | spawn busy' moves =>
    cases busy.symm.trans busy'
    rw [tasks_assign_self] at failed
    cases Spawning.step_eq_some.1 moves with
    | unlock =>
      cases failed
      exact same rfl rfl

/-- What the table tracks after a run with these events. -/
structure Tracking (es : List Event) (s : Shared) : Prop where
  /-- It tracks the PIDs of the children that have been started and not yet been collected. -/
  tracked : ∀ pid, s.table.isTracked pid = true ↔ ∃ i c, Started es s i ∧
    s.children i = some c ∧ c.pid = pid ∧ ∀ e, c.life ≠ .collected e
  /-- A start registers a PID that nobody waits for, and all others still wait for theirs. -/
  undisplaced : ∀ task s', Step s (.spawn task .register) s' → ∃ pid,
    s.table.isTracked pid = false ∧
      s'.table.waiters = (pid, s.table.slots.length) :: s.table.waiters ∧
        s'.table.slots = s.table.slots ++ [.waiting]
  /-- A start that fails leaves no trace. -/
  failed : ∀ task s₁ mid s₂ s' cause child, Step s (.spawn task .lock) s₁ → Run Step s₁ mid s₂ →
    Step s₂ (.spawn task .unlock) s' → s'.tasks task = .starting (.done (.error cause)) child →
      s'.table.waiters = s.table.waiters
  /-- No entry is left of a handle, dropped or not, whose child has been collected. -/
  released : ∀ (n : Nat) ticket c e, s.tickets[n]? = some ticket →
    s.children ticket.child = some c → c.life = .collected e → ∀ pid, (pid, n) ∉ s.table.waiters
  /-- Who is there and has not been started is not tracked. -/
  strangers : ∀ i c, s.children i = some c → c.life.isOver = false → ¬Started es s i →
    s.table.isTracked c.pid = false
  /-- The table is empty when all that have been started are collected. -/
  empty : s.table.waiters = [] ↔
    ∀ i c, Started es s i → s.children i = some c → ∃ e, c.life = .collected e

theorem tracks_started_until_collected (run : Run Step {} es s) : Tracking es s := by
  have h := Inv.run run
  have tracked pid : s.table.isTracked pid = true ↔ ∃ i c, Started es s i ∧
      s.children i = some c ∧ c.pid = pid ∧ ∀ e, c.life ≠ .collected e := by
    simp only [h.tracked_iff, started_iff run]
  constructor
  case tracked => exact tracked
  case undisplaced => exact fun _ _ => h.registers
  case failed => exact fun _ _ _ _ _ _ _ enters run leaves => h.failed_start enters run leaves
  case released =>
    intro n ticket c e given known life pid
    exact h.released (keyed_of_run run) given known (by simp [life, Life.isOver])
  case strangers =>
    intro i c known kept stranger
    by_contra tracked
    rw [Bool.not_eq_false] at tracked
    exact stranger ((started_iff run).2 (h.hasTicket_of_tracked known kept tracked))
  case empty =>
    rw [Table.waiters_eq_nil_iff]
    constructor
    · intro none i c started known
      by_contra uncollected
      obtain ⟨n, hn⟩ := Table.isTracked_iff.1
        ((tracked c.pid).2 ⟨i, c, started, known, rfl, not_exists.1 uncollected⟩)
      simp [none] at hn
    · intro collected pid
      by_contra waits
      obtain ⟨n, hn⟩ := Option.ne_none_iff_exists'.1 waits
      obtain ⟨i, c, started, known, _, uncollected⟩ :=
        (tracked pid).1 (Table.isTracked_iff.2 ⟨n, hn⟩)
      obtain ⟨e, life⟩ := collected i c started known
      exact uncollected e life

/-- The first command's handle is dropped, and when it has been collected, beside an orphan, the
kernel gives its PID to the second. -/
def reused : List Event := [
  .begin 0 (.starting .queued none), .spawn 0 .lock, .spawn 0 (.fork (.ok 7)),
  .spawn 0 (.exec none), .spawn 0 .register, .spawn 0 .unlock, .drop 0,
  .kernel (.adopt 1 8 (some .success)), .kernel (.exit 0 .success),
  .begin 1 (.reaping .queued []), .pass 1 .lock,
  .pass 1 (.wait (.report 7 0)), .pass 1 (.wait (.report 8 0)), .pass 1 (.wait .noChildren),
  .pass 1 .unlock, .begin 2 (.starting .queued none), .spawn 2 .lock, .spawn 2 (.fork (.ok 7)),
  .spawn 2 (.exec none), .spawn 2 .register, .spawn 2 .unlock]

theorem tracks_reused_pid : ∃ s, (Run Step {} reused s ∧ Tracking reused s) ∧
    s.table.waiters = [(7, 1)] ∧ s.table.isTracked 8 = false := by
  have run : ∃ s, Run Step {} reused s ∧
      s.table.waiters = [(7, 1)] ∧ s.table.isTracked 8 = false := by
    refine Run.exists_cons (.begin rfl (.inl rfl)) ?_
    refine Run.exists_cons (.spawn rfl rfl .lock) ?_
    refine Run.exists_cons (.spawn rfl rfl (.fork (i := 0) rfl nofun)) ?_
    refine Run.exists_cons (.spawn rfl rfl .exec) ?_
    refine Run.exists_cons (.spawn rfl rfl .register) ?_
    refine Run.exists_cons (.spawn rfl rfl .unlock) ?_
    refine Run.exists_cons (.drop rfl rfl) ?_
    refine Run.exists_cons (.kernel (.adopt rfl ?_)) ?_
    · intro i c known hpid
      simp only [Shared.assign, Children.set_apply] at known
      grind
    refine Run.exists_cons (.kernel (.exit rfl rfl)) ?_
    refine Run.exists_cons (.begin rfl (.inr rfl)) ?_
    refine Run.exists_cons (.pass rfl rfl .lock) ?_
    refine Run.exists_cons (.pass rfl rfl (.wait
      (.ended (i := 0) (c := ⟨7, true, .ended .success⟩) (e := .success) rfl rfl))) ?_
    refine Run.exists_cons (.pass rfl rfl (.wait
      (.ended (i := 1) (c := ⟨8, false, .ended .success⟩) (e := .success) rfl rfl))) ?_
    refine Run.exists_cons (.pass rfl rfl (.wait (.noChildren ?_))) ?_
    · intro i c e known
      simp only [Shared.assign, Children.set_apply] at known
      grind
    refine Run.exists_cons (.pass rfl rfl .unlock) ?_
    refine Run.exists_cons (.begin rfl (.inl rfl)) ?_
    refine Run.exists_cons (.spawn rfl rfl .lock) ?_
    refine Run.exists_cons (.spawn rfl rfl (.fork (i := 2) rfl ?_)) ?_
    · intro i c known hpid
      simp only [Shared.assign, Children.set_apply] at known
      grind [Life.isOver]
    refine Run.exists_cons (.spawn rfl rfl .exec) ?_
    refine Run.exists_cons (.spawn rfl rfl .register) ?_
    exact ⟨_, .single (.spawn rfl rfl .unlock), rfl, rfl⟩
  obtain ⟨s, run, waiters, orphan⟩ := run
  exact ⟨s, ⟨run, tracks_started_until_collected run⟩, waiters, orphan⟩

end PidOne.Shared
