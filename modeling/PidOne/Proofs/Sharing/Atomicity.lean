import PidOne.Proofs.Sharing.Serial

/-!
# Atomicity

The lock makes each start one step: to every run, with its starts and passes in pieces, there is a
serial run to the same statuses, answers and table.
-/

namespace PidOne

theorem Table.hold_none {t : Table} (free : t.holder = none) : { t with holder := none } = t := by
  cases t
  simp_all

theorem Spawning.leaving_of_inside {p : Spawning} (inside : p.isInside = true)
    (past : ¬p.isHalfway = true) : ∃ answer, p = .leaving answer := by
  cases p <;> simp_all [isHalfway, isInside]

/-- Whether the start has registered its child. If it is over and has not, it has failed. -/
def Spawning.hasRegistered : Spawning → Bool
  | .leaving (.ok _) | .done (.ok _) => true
  | _ => false

theorem Pass.Moves.free_or_inside_after {task : TaskId} {t t' : Table} {p p' : Pass}
    {e : Pass.Event} (h : Pass.Moves task t p e p' t') :
    t'.holder = none ∨ p'.isInside = true := by
  cases h with
  | unlock => exact .inl rfl
  | _ => exact .inr rfl

namespace Kernel

variable {k : Children} {i j : ChildId} {c : Child}

/-- Without a child that the kernel still keeps its PID would be free. -/
theorem Children.Distinct.free_without (h : k.Distinct) (known : k i = some c)
    (kept : c.life.isOver = false) : (k.without (some i)).Free c.pid := by
  intro j d hj hpid
  by_cases hi : j = i
  · simp [hi] at hj
  · by_contra kept'
    rw [Children.without_of_ne hi] at hj
    exact hi (h j i d c hj known hpid (by simpa using kept') kept)

/-- The kernel does the same when a child is undone, unless it is with this child. -/
theorem Changes.without {k' : Children} {event : Event} {undone : Option ChildId}
    (h : Changes k event k') (known : ∀ i, undone = some i → k i ≠ none) :
    k'.without undone = k.without undone ∨ Changes (k.without undone) event (k'.without undone) := by
  cases undone with
  | none => exact .inr h
  | some i =>
    cases h with
    | @exit j _ _ known' running =>
      by_cases hj : j = i
      · subst j
        exact .inl (Children.without_set_self ..)
      · rw [Children.without_set_of_ne hj]
        exact .inr (.exit (by rw [Children.without_of_ne hj, known']) running)
    | @adopt j _ _ fresh free =>
      have hj : j ≠ i := by
        rintro rfl
        exact known j rfl fresh
      rw [Children.without_set_of_ne hj]
      exact .inr (.adopt (by rw [Children.without_of_ne hj, fresh]) (free.without _))

end Kernel

namespace Shared

open Kernel

variable {s s' : Shared} {task other : TaskId} {e : Event} {i : ChildId} {c : Child}
variable {child child' : Option ChildId} {progress progress' : Spawning} {pass : Pass}
variable {ids : List ChildId} {answer : Except Cause Handle} {event : Spawning.Event}
variable {t t' : Table} {k k' : Children} {tickets : List Ticket} {pid : Pid}

theorem Inv.holder_of_inside (h : s.Inv) (busy : s.tasks task = .starting progress child)
    (inside : progress.isInside = true) : s.table.holder = some task :=
  (h.exclusive task).1 (by rw [busy]; exact inside)

/-- With the start that is inside back in the queue nobody is inside. -/
theorem Inv.alone_queued (h : s.Inv) (holder : s.table.holder = some task) (other : TaskId) :
    ((s.starting task .queued child t k tickets).tasks other).isInside = false := by
  by_cases ho : other = task
  · rw [ho, starting_tasks_self]
    rfl
  · rw [starting_tasks_of_ne ho, ← Bool.not_eq_true, h.exclusive, holder]
    simpa using Ne.symm ho

/-- A child that a start has forked but not registered is as if it were still to be forked. -/
theorem Inv.unforked (h : s.Inv) (unregistered : s.Unregistered i pid) :
    (s.children.without (some i)) i = none ∧ (s.children.without (some i)).Free pid := by
  obtain ⟨c, known, _, rfl, kept, _⟩ := unregistered
  exact ⟨Children.without_self .., h.distinct.free_without known kept⟩

/-- A start takes effect at once, when it registers or collects its child or is refused one. -/
theorem Inv.settle_spawn (h : s.Inv) (busy : s.tasks task = .starting progress child)
    (moves : Spawning.Moves task s.table progress event progress' t')
    (kernel : Starts s.children child event child' k') :
    ∃ ess, Run Serial s.settle ess
      (s.starting task progress' child' t' k' (issue s.tickets event progress' child')).settle := by
  have fits := h.fits_start busy
  have holder := h.holder_of_inside busy
  -- Up to the registration a step leaves the settled state as it is: what it does is undone.
  cases moves with
  | lock free =>
    cases kernel
    obtain rfl : child = none := fits
    refine ⟨[], Run.nil_iff.2 ?_⟩
    rw [settle_of_free free, settle_starting_halfway rfl rfl]
    conv_lhs => rw [← starting_self busy, ← Table.hold_none free]
    rfl
  | fork =>
    cases kernel with
    | fork fresh free =>
      refine ⟨[], Run.nil_iff.2 ?_⟩
      rw [settle_of_halfway (holder rfl) busy rfl, settle_starting_halfway (holder rfl) rfl,
        Children.without_set_self, Children.without_of_fresh fresh]
      rfl
  | refuse =>
    cases kernel
    rw [settle_of_halfway (holder rfl) busy rfl, settle_starting_leaving (holder rfl)]
    exact ⟨_, .single (.whole (h.alone_queued (holder rfl)) .refused (run_refused ..))⟩
  | exec =>
    cases kernel
    refine ⟨[], Run.nil_iff.2 ?_⟩
    rw [settle_of_halfway (holder rfl) busy rfl, settle_starting_halfway (holder rfl) rfl]
    rfl
  | fail =>
    cases kernel
    refine ⟨[], Run.nil_iff.2 ?_⟩
    rw [settle_of_halfway (holder rfl) busy rfl, settle_starting_halfway (holder rfl) rfl]
    rfl
  | discard =>
    obtain ⟨⟨number, rfl⟩, i, rfl, unregistered⟩ := fits
    obtain ⟨fresh, free⟩ := h.unforked unregistered
    obtain ⟨c, known, own, rfl, _, _⟩ := unregistered
    rw [settle_of_halfway (holder rfl) busy rfl, settle_starting_leaving (holder rfl)]
    cases kernel with
    | @discard _ d e known' ended =>
      obtain rfl := Option.some.inj (known.symm.trans known')
      have run := run_failed s task s.table s.tickets fresh free number e
      rw [Children.set_without, ← own] at run
      exact ⟨_, .single (.whole (h.alone_queued (holder rfl)) .failed run)⟩
  | register =>
    obtain ⟨i, rfl, unregistered⟩ := fits
    obtain ⟨fresh, free⟩ := h.unforked unregistered
    obtain ⟨c, known, own, rfl, kept, _⟩ := unregistered
    cases kernel
    rw [settle_of_halfway (holder rfl) busy rfl,
      settle_starting_leaving ((s.table.holder_register _).trans (holder rfl))]
    have run := run_registered s task s.table s.tickets fresh free
    rw [Children.set_without, ← own] at run
    have whole := Serial.whole (h.alone_queued (holder rfl)) .registered run
    -- If the child has ended since it was forked, in the serial run it ends after the start.
    cases life : c.life with
    | running =>
      rw [← life, Children.set_of_known known] at whole
      exact ⟨_, .single whole⟩
    | ended e =>
      have exit := Serial.single rfl (Step.starting_exit s task
        (.done (.ok (s.table.register c.pid).2)) (some i)
        { (s.table.register c.pid).1 with holder := none }
        (issue (s.tickets ++ [⟨(s.table.register c.pid).2, i, .issuing⟩]) .unlock
          (.done (.ok (s.table.register c.pid).2)) (some i))
        (Children.set_self s.children i ⟨c.pid, c.own, .running⟩) rfl e)
      rw [Children.set_set, ← life, Children.set_of_known known] at exit
      exact ⟨_, .cons whole (.single exit)⟩
    | _ => simp [life, Life.isOver] at kept
  | unlock =>
    cases kernel
    refine ⟨[], Run.nil_iff.2 ?_⟩
    rw [settle_of_leaving (holder rfl) busy, settle_of_free rfl]
    rfl

/-- What needs the lock: the steps of starts and passes. -/
def Event.needsLock : Event → Bool
  | .spawn .. | .pass .. => true
  | _ => false

theorem Step.holder_same (step : Step s e s') (free : e.needsLock = false) :
    s'.table.holder = s.table.holder := by
  cases step with
  | spawn | pass => cases free
  | _ => rfl

theorem Step.tasks_same (step : Step s e s') (free : e.needsLock = false)
    (inside : (s.tasks task).isInside = true) : s'.tasks task = s.tasks task := by
  cases step with
  | begin idle =>
    refine tasks_assign_of_ne _ ?_ _
    rintro rfl
    simp [idle, Task.isInside] at inside
  | spawn | pass => cases free
  | _ => rfl

theorem starting_assign (h : other ≠ task) (work : Task) :
    (s.starting task progress child t k tickets).assign other work =
      (s.assign other work).starting task progress child t k tickets := by
  simp [Shared.starting, assign, Function.update_comm h]

section issue

variable {n : Nat}

/-- With the lock a start gives out its handle, if it has one. -/
theorem issue_unlock (tickets : List Ticket) (progress : Spawning) (child : Option ChildId) :
    (∃ handle, progress = .done (.ok handle) ∧
      issue tickets .unlock progress child = tickets.modify handle.slot (.pass .held)) ∨
    issue tickets .unlock progress child = tickets := by
  cases progress with
  | done answer =>
    cases answer with
    | ok handle => exact .inl ⟨handle, rfl, rfl⟩
    | error => exact .inr rfl
  | _ => exact .inr rfl

theorem getElem?_issue_unlock (apart : ∀ handle, progress = .done (.ok handle) → handle.slot ≠ n) :
    (issue tickets .unlock progress child)[n]? = tickets[n]? := by
  rcases issue_unlock tickets progress child with ⟨handle, hp, h⟩ | h
  · simp [h, apart handle hp]
  · rw [h]

theorem issue_unlock_modify (apart : ∀ handle, progress = .done (.ok handle) → handle.slot ≠ n)
    (f : Ticket → Ticket) :
    issue (tickets.modify n f) .unlock progress child =
      (issue tickets .unlock progress child).modify n f := by
  cases progress with
  | done answer =>
    cases answer with
    | ok handle => exact (List.modify_modify_ne _ _ _ (apart handle rfl)).symm
    | error => rfl
  | _ => rfl

end issue

theorem conclude_tickets {undone : Option ChildId} :
    (s.conclude task progress child undone).tickets = issue s.tickets .unlock progress child := rfl

/-- What needs no lock happens just so if the start that is inside is out. -/
theorem Step.conclude {undone : Option ChildId} (step : Step s e s')
    (free : e.needsLock = false) (inside : (s.tasks task).isInside = true)
    (known : ∀ i, undone = some i → s.children i ≠ none)
    (apart : ∀ (n : Nat) ticket handle, s.tickets[n]? = some ticket → ticket.custody = .held →
      progress = .done (.ok handle) → handle.slot ≠ n) :
    ∃ ess, Run Serial (s.conclude task progress child undone) ess
      (s'.conclude task progress child undone) := by
  cases step with
  | @begin other work idle new =>
    have ho : other ≠ task := by
      rintro rfl
      simp [idle, Task.isInside] at inside
    have begins := Step.begin (s := s.conclude task progress child undone)
      ((starting_tasks_of_ne ho).trans idle) new
    rw [Shared.conclude, starting_assign ho] at begins
    exact ⟨_, .single (.single rfl begins)⟩
  | spawn | pass => cases free
  | kernel changes =>
    rcases changes.without known with same | changes
    · refine ⟨[], Run.nil_iff.2 ?_⟩
      rw [Shared.conclude, Shared.conclude, same]
      rfl
    · exact ⟨_, .single (.single rfl (.kernel (s := s.conclude task progress child undone) changes))⟩
  | @receive n ticket answer given held answers =>
    have apart handle := apart n ticket handle given held
    have receives := Step.receive (s := s.conclude task progress child undone)
      ((getElem?_issue_unlock apart).trans given) held answers
    rw [conclude_tickets, ← issue_unlock_modify apart] at receives
    exact ⟨[[.receive n]], .single (.single rfl receives)⟩
  | @drop n ticket given held =>
    have apart handle := apart n ticket handle given held
    have drops := Step.drop (s := s.conclude task progress child undone)
      ((getElem?_issue_unlock apart).trans given) held
    rw [conclude_tickets, ← issue_unlock_modify apart] at drops
    exact ⟨[[.drop n]], .single (.single rfl drops)⟩

/-- As long as a start has registered nothing its child is not collected by anybody else. -/
theorem Inv.child_of_start (h : s.Inv) (busy : s.tasks task = .starting progress (some i)) :
    ∃ c, s.children i = some c ∧
      (progress.hasRegistered = false → c.life.isOver = false ∨ c.life = .discarded) := by
  have fits := h.fits_start busy
  cases progress with
  | queued | locked => cases fits
  | forked | executing =>
    obtain ⟨_, ⟨⟩, c, known, _, _, kept, _⟩ := fits
    exact ⟨c, known, fun _ => .inl kept⟩
  | failed =>
    obtain ⟨_, _, ⟨⟩, c, known, _, _, kept, _⟩ := fits
    exact ⟨c, known, fun _ => .inl kept⟩
  | leaving answer =>
    cases answer with
    | error cause =>
      obtain ⟨c, known, life⟩ := fits i rfl
      exact ⟨c, known, fun _ => .inr life⟩
    | ok handle =>
      obtain ⟨_, ⟨⟩, given⟩ := fits
      obtain ⟨c, _, b⟩ := h.agree.backs _ _ given
      exact ⟨c, b.known, fun unregistered => by cases unregistered⟩
  | done answer =>
    cases answer with
    | error cause =>
      obtain ⟨c, known, life⟩ := fits i rfl
      exact ⟨c, known, fun _ => .inr life⟩
    | ok handle =>
      obtain ⟨_, _, ⟨⟩, _, given⟩ := fits
      obtain ⟨c, _, b⟩ := h.agree.backs _ _ given
      exact ⟨c, b.known, fun unregistered => by cases unregistered⟩

theorem Inv.known_child (h : s.Inv) (busy : s.tasks task = .starting progress (some i)) :
    s.children i ≠ none := by
  obtain ⟨c, known, _⟩ := h.child_of_start busy
  simp [known]

theorem Inv.settle_other (h : s.Inv) (step : Step s e s') (free : e.needsLock = false) :
    ∃ ess, Run Serial s.settle ess s'.settle := by
  have sameHolder := step.holder_same free
  cases holder : s.table.holder with
  | none =>
    rw [settle_of_free holder, settle_of_free (sameHolder.trans holder)]
    refine ⟨[[e]], .single (.single ?_ step)⟩
    cases e <;> first | rfl | cases free
  | some task =>
    have inside := (h.exclusive task).2 holder
    have same := step.tasks_same free inside
    cases busy : s.tasks task with
    | idle => simp [busy, Task.isInside] at inside
    | reaping pass ids =>
      rw [settle_of_reaping holder busy,
        settle_of_reaping (sameHolder.trans holder) (same.trans busy)]
      refine ⟨[[e]], .single (.single ?_ step)⟩
      cases e <;> first | rfl | cases free
    | starting progress child =>
      have known i (hi : child = some i) := h.known_child (hi ▸ busy)
      by_cases halfway : progress.isHalfway = true
      · rw [settle_of_halfway holder busy halfway,
          settle_of_halfway (sameHolder.trans holder) (same.trans busy) halfway]
        exact step.conclude free inside known fun _ _ _ _ _ h => by cases h
      · obtain ⟨answer, rfl⟩ := Spawning.leaving_of_inside (by simpa [busy, Task.isInside] using inside)
          halfway
        rw [settle_of_leaving holder busy,
          settle_of_leaving (sameHolder.trans holder) (same.trans busy)]
        refine step.conclude free inside (by simp) fun n ticket handle given held hprogress => ?_
        obtain rfl : answer = .ok handle := by simpa using hprogress
        obtain ⟨i, _, issuing⟩ := h.fits_start busy
        rintro rfl
        obtain rfl := Option.some.inj (given.symm.trans issuing)
        cases held

/-- A pass is one while nobody starts anything, and this state is settled. -/
theorem Inv.settle_of_pass (h : s.Inv) (busy : s.tasks task = .reaping pass ids)
    (alone : s.table.holder = none ∨ pass.isInside = true) : s.settle = s := by
  rcases alone with free | inside
  · exact settle_of_free free
  · exact settle_of_reaping ((h.exclusive task).1 (by rw [busy]; exact inside)) busy

/-- Each step is a few steps of a serial run, or none. -/
theorem Inv.settle_step (h : s.Inv) (step : Step s e s') :
    ∃ ess, Run Serial s.settle ess s'.settle := by
  cases step with
  | spawn busy moves kernel => exact h.settle_spawn busy (Spawning.step_eq_some.1 moves) kernel
  | @pass task pass ids event pass' _ _ _ busy moves kernel =>
    have step := Step.pass busy moves kernel
    rw [Pass.step_eq_some] at moves
    rw [h.settle_of_pass busy moves.free_or_inside,
      (h.step step).settle_of_pass (tasks_assign_self ..) moves.free_or_inside_after]
    exact ⟨[[.pass task event]], .single (.single rfl step)⟩
  | begin idle new => exact h.settle_other (.begin idle new) rfl
  | kernel changes => exact h.settle_other (.kernel changes) rfl
  | receive given held answers => exact h.settle_other (.receive given held answers) rfl
  | drop given held => exact h.settle_other (.drop given held) rfl

theorem serial_run {es : List Event} (run : Run Step {} es s) :
    ∃ ess, Run Serial {} ess s.settle := by
  have keeps : ∀ {s e s'}, (s.Inv ∧ ∃ ess, Run Serial {} ess s.settle) → Step s e s' →
      s'.Inv ∧ ∃ ess, Run Serial {} ess s'.settle := by
    rintro s e s' ⟨h, ess, run⟩ step
    obtain ⟨ess', run'⟩ := h.settle_step step
    exact ⟨h.step step, ess ++ ess', run.append run'⟩
  exact (run.keeps (P := fun s => s.Inv ∧ ∃ ess, Run Serial {} ess s.settle) keeps
    ⟨.start, [], .nil⟩).2

theorem Inv.not_collected_of_start (h : s.Inv) (busy : s.tasks task = .starting progress (some i))
    (unregistered : progress.hasRegistered = false) (other : TaskId) :
    i ∉ (s.tasks other).collected := by
  obtain ⟨c, known, life⟩ := h.child_of_start busy
  rcases life unregistered with kept | discarded
  · exact h.not_collected known kept other
  · intro hi
    obtain ⟨d, e, known', collected⟩ := h.collected hi
    obtain rfl := Option.some.inj (known.symm.trans known')
    cases discarded.symm.trans collected

/-- The same has come out in both states. A handle that a start still holds back in the first may be
given out in the second. -/
structure Alike (s r : Shared) : Prop where
  waiters : r.table.waiters = s.table.waiters
  slots : r.table.slots = s.table.slots
  passes : ∀ task pass ids, r.tasks task = .reaping pass ids ↔ s.tasks task = .reaping pass ids
  answers : ∀ task answer child, s.tasks task = .starting (.done answer) child →
    r.tasks task = .starting (.done answer) child
  length : r.tickets.length = s.tickets.length
  handles : ∀ (n : Nat) ticket, s.tickets[n]? = some ticket → ∃ custody,
    r.tickets[n]? = some (ticket.pass custody) ∧
      (ticket.custody = .issuing ∧ custody = .held ∨ custody = ticket.custody)
  calm : s.table.holder = none → r = s

theorem Alike.refl (s : Shared) : Alike s s where
  waiters := rfl
  slots := rfl
  passes _ _ _ := .rfl
  answers _ _ _ h := h
  length := rfl
  handles _ ticket h := ⟨ticket.custody, h, .inr rfl⟩
  calm _ := rfl

theorem Alike.conclude {undone : Option ChildId} (holder : s.table.holder = some task)
    (busy : s.tasks task = .starting progress' child') (inside : progress'.isInside = true)
    (issuing : ∀ handle, progress = .done (.ok handle) →
      ∃ i, s.tickets[handle.slot]? = some ⟨handle, i, .issuing⟩) :
    Alike s (s.conclude task progress child undone) where
  waiters := rfl
  slots := rfl
  passes other pass ids := by
    by_cases ho : other = task
    · simp [ho, busy, Shared.conclude]
    · rw [Shared.conclude, starting_tasks_of_ne ho]
  answers other answer child h := by
    have ho : other ≠ task := by
      rintro rfl
      cases busy.symm.trans h
      cases inside
    rw [Shared.conclude, starting_tasks_of_ne ho, h]
  length := by
    rw [conclude_tickets]
    rcases issue_unlock s.tickets progress child with ⟨handle, _, h⟩ | h <;> simp [h]
  handles n ticket given := by
    rw [conclude_tickets]
    rcases issue_unlock s.tickets progress child with ⟨handle, hp, h⟩ | h
    · by_cases hn : handle.slot = n
      · obtain ⟨i, hi⟩ := issuing handle hp
        obtain rfl := Option.some.inj (given.symm.trans (hn ▸ hi))
        exact ⟨.held, by simp [h, hn, given], .inl ⟨rfl, rfl⟩⟩
      · exact ⟨ticket.custody, by simp [h, hn, given, Ticket.pass], .inr rfl⟩
    · exact ⟨ticket.custody, by rw [h]; exact given, .inr rfl⟩
  calm free := by simp [holder] at free

theorem Inv.alike_settle (h : s.Inv) : Alike s s.settle := by
  cases holder : s.table.holder with
  | none =>
    rw [settle_of_free holder]
    exact .refl s
  | some task =>
    have inside := (h.exclusive task).2 holder
    cases busy : s.tasks task with
    | idle => simp [busy, Task.isInside] at inside
    | reaping pass ids =>
      rw [settle_of_reaping holder busy]
      exact .refl s
    | starting progress child =>
      rw [busy] at inside
      by_cases halfway : progress.isHalfway = true
      · rw [settle_of_halfway holder busy halfway]
        exact .conclude holder busy inside fun _ h => by cases h
      · obtain ⟨answer, rfl⟩ := Spawning.leaving_of_inside inside halfway
        rw [settle_of_leaving holder busy]
        refine .conclude holder busy rfl fun handle hanswer => ?_
        cases hanswer
        obtain ⟨i, _, issuing⟩ := h.fits_start busy
        exact ⟨i, issuing⟩

theorem starts_and_passes_atomic {es : List Event} (run : Run Step {} es s) :
    (∀ task progress i, s.tasks task = .starting progress (some i) →
      progress.hasRegistered = false → ∀ other, i ∉ (s.tasks other).collected) ∧
    (∀ task pass ids, s.tasks task = .reaping pass ids →
      List.Forall₂ s.Yields ids pass.statuses) ∧
    ∃ ess r, Run Serial {} ess r ∧ Alike s r := by
  have h := Inv.run run
  obtain ⟨ess, serial⟩ := serial_run run
  exact ⟨fun _ _ _ => h.not_collected_of_start, fun _ _ _ busy => (h.fits_pass busy).2,
    ess, s.settle, serial, h.alike_settle⟩

/-- A child ends before it is registered, while a pass waits for the lock. -/
theorem starts_and_passes_atomic_of_early_end : ∃ s,
    Run Step {} [.begin 0 (.starting .queued none), .begin 1 (.reaping .queued []),
      .spawn 0 .lock, .spawn 0 (.fork (.ok 7)), .kernel (.exit 0 .success)] s ∧
    s.children 0 = some ⟨7, true, .ended .success⟩ ∧ (∀ other, 0 ∉ (s.tasks other).collected) ∧
    ∃ ess r, Run Serial {} ess r ∧ Alike s r := by
  have run : ∃ s,
      Run Step {} [.begin 0 (.starting .queued none), .begin 1 (.reaping .queued []),
        .spawn 0 .lock, .spawn 0 (.fork (.ok 7)), .kernel (.exit 0 .success)] s ∧
      s.children 0 = some ⟨7, true, .ended .success⟩ ∧
      s.tasks 0 = .starting (.forked 7) (some 0) := by
    refine Run.exists_cons (.begin rfl (.inl rfl)) ?_
    refine Run.exists_cons (.begin rfl (.inr rfl)) ?_
    refine Run.exists_cons (.spawn rfl rfl .lock) ?_
    refine Run.exists_cons (.spawn rfl rfl (.fork (i := 0) rfl nofun)) ?_
    exact ⟨_, .single (.kernel (.exit rfl rfl)), rfl, rfl⟩
  obtain ⟨s, run, child, busy⟩ := run
  obtain ⟨untouched, _, serial⟩ := starts_and_passes_atomic run
  exact ⟨s, run, child, untouched 0 _ 0 busy rfl, serial⟩

end Shared

end PidOne
