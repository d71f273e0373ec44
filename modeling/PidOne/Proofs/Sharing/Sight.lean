import PidOne.Proofs.Sharing.Preservation
import PidOne.Proofs.Table.Disregard

/-!
# A shared table with handles out of sight

Some handles are disregarded: it is not looked at whether they are waited on or dropped, and when.
What is left of a shared table takes the same course, whatever becomes of these handles.
-/

namespace PidOne.Shared

open Kernel

/-- The handle that is dropped or waited on. -/
def Event.handle? : Event → Option Nat
  | .receive n | .drop n => some n
  | _ => none

/-- Whether this is done with one of these handles. -/
def Event.uses (D : Nat → Bool) (e : Event) : Bool := e.handle?.any D

/-- What happens apart from what is done with these handles. -/
def apart (D : Nat → Bool) (es : List Event) : List Event := es.filter fun e => !e.uses D

def Task.work : Task → Work
  | .idle => .idle
  | .starting progress _ => .starting progress
  | .reaping pass _ => .reaping pass

/-- All handles, each with the place where it is, if it is not disregarded. -/
def sight (D : Nat → Bool) (tickets : List Ticket) : List (Handle × Option Custody) :=
  tickets.mapIdx fun n ticket => (ticket.handle, if D n then none else some ticket.custody)

/-- No difference is seen as long as these handles are disregarded. -/
structure LooksLike (D : Nat → Bool) (s s' : Shared) : Prop where
  table : s'.table.disregard D = s.table.disregard D
  works : ∀ task, (s'.tasks task).work = (s.tasks task).work
  tickets : sight D s'.tickets = sight D s.tickets

variable {D : Nat → Bool} {s s' t t' r : Shared} {e : Event} {es es' : List Event} {n : Nat}
variable {tickets tickets' : List Ticket} {ticket : Ticket} {task : TaskId}

theorem length_of_sight (same : sight D tickets' = sight D tickets) :
    tickets'.length = tickets.length := by
  simpa [sight] using congrArg List.length same

theorem map_sight : (sight D tickets).map Prod.fst = tickets.map (·.handle) := by
  apply List.ext_getElem?
  intro n
  simp [sight, Function.comp_def]

theorem getElem?_of_sight (same : sight D tickets' = sight D tickets)
    (given : tickets[n]? = some ticket) : ∃ ticket', tickets'[n]? = some ticket' ∧
      ticket'.handle = ticket.handle ∧ (D n = false → ticket'.custody = ticket.custody) := by
  have seen : (sight D tickets')[n]? = (sight D tickets)[n]? := congrArg (·[n]?) same
  simp only [sight, List.getElem?_mapIdx, given, Option.map_some, Option.map_eq_some_iff,
    Prod.mk.injEq] at seen
  obtain ⟨ticket', given', handle, custody⟩ := seen
  refine ⟨ticket', given', handle, fun hn => ?_⟩
  simpa [hn] using custody

theorem sight_modify (same : sight D tickets' = sight D tickets) (n : Nat) (custody : Custody) :
    sight D (tickets'.modify n (.pass custody)) = sight D (tickets.modify n (.pass custody)) := by
  apply List.ext_getElem?
  intro m
  have seen : (sight D tickets')[m]? = (sight D tickets)[m]? := congrArg (·[m]?) same
  simp only [sight, List.getElem?_mapIdx, List.getElem?_modify] at seen ⊢
  by_cases hm : n = m
  · cases h' : tickets'[m]? <;> cases h : tickets[m]? <;> simp_all [Ticket.pass]
  · simpa [hm] using seen

/-- Where a disregarded handle goes is not seen. -/
theorem sight_modify_of (hn : D n = true) (tickets : List Ticket) (custody : Custody) :
    sight D (tickets.modify n (.pass custody)) = sight D tickets := by
  apply List.ext_getElem?
  intro m
  simp only [sight, List.getElem?_mapIdx, List.getElem?_modify]
  by_cases hm : n = m
  · subst hm
    cases tickets[n]? <;> simp [Ticket.pass, hn]
  · simp [hm]

theorem sight_append (same : sight D tickets' = sight D tickets) (handle : Handle)
    (child child' : ChildId) (custody : Custody) :
    sight D (tickets' ++ [⟨handle, child', custody⟩]) =
      sight D (tickets ++ [⟨handle, child, custody⟩]) := by
  simp only [sight, List.mapIdx_append, List.mapIdx_singleton, length_of_sight same] at same ⊢
  rw [same]

theorem sight_issue (same : sight D tickets' = sight D tickets) (event : Spawning.Event)
    (progress : Spawning) {child child' : Option ChildId}
    (forked : event = .register → child.isSome = true ∧ child'.isSome = true) :
    sight D (issue tickets' event progress child') =
      sight D (issue tickets event progress child) := by
  cases event with
  | register =>
    obtain ⟨hi, hj⟩ := forked rfl
    obtain ⟨i, rfl⟩ := Option.isSome_iff_exists.1 hi
    obtain ⟨j, rfl⟩ := Option.isSome_iff_exists.1 hj
    rcases progress with _ | _ | _ | _ | _ | (_ | handle) | _
    case leaving.ok => exact sight_append same handle i j .issuing
    all_goals exact same
  | unlock =>
    rcases progress with _ | _ | _ | _ | _ | _ | (_ | handle)
    case done.ok => exact sight_modify same handle.slot .held
    all_goals exact same
  | _ => exact same

/-- A start has a child when it registers one. -/
theorem Inv.forked (h : s.Inv) {progress progress' : Spawning} {child child' : Option ChildId}
    {event : Spawning.Event} {table : Table} {k : Children}
    (busy : s.tasks task = .starting progress child)
    (moves : Spawning.Moves task s.table progress event progress' table)
    (starts : Starts s.children child event child' k) (registers : event = .register) :
    child'.isSome = true := by
  have fits := h.fits_start busy
  subst registers
  cases moves with
  | register =>
    obtain ⟨i, rfl, _⟩ := fits
    cases starts with
    | register => rfl

theorem LooksLike.refl (s : Shared) : LooksLike D s s := ⟨rfl, fun _ => rfl, rfl⟩

theorem LooksLike.symm (h : LooksLike D s s') : LooksLike D s' s :=
  ⟨h.table.symm, fun task => (h.works task).symm, h.tickets.symm⟩

theorem LooksLike.trans (h : LooksLike D s s') (h' : LooksLike D s' r) : LooksLike D s r :=
  ⟨h'.table.trans h.table, fun task => (h'.works task).trans (h.works task),
    h'.tickets.trans h.tickets⟩

theorem LooksLike.starting (h : LooksLike D s s') {progress : Spawning} {child : Option ChildId}
    (busy : s.tasks task = .starting progress child) :
    ∃ child', s'.tasks task = .starting progress child' := by
  have work := h.works task
  rw [busy] at work
  cases busy' : s'.tasks task <;> simp_all [Task.work]

theorem LooksLike.reaping (h : LooksLike D s s') {pass : Pass} {ids : List ChildId}
    (busy : s.tasks task = .reaping pass ids) : ∃ ids', s'.tasks task = .reaping pass ids' := by
  have work := h.works task
  rw [busy] at work
  cases busy' : s'.tasks task <;> simp_all [Task.work]

theorem works_assign (works : ∀ task, (s'.tasks task).work = (s.tasks task).work)
    {work work' : Task} (same : work'.work = work.work) (other : TaskId) :
    ((s'.assign task work').tasks other).work = ((s.assign task work).tasks other).work := by
  by_cases ho : other = task
  · subst ho
    rw [tasks_assign_self, tasks_assign_self, same]
  · rw [tasks_assign_of_ne _ ho, tasks_assign_of_ne _ ho, works]

/-- The slot of a handle has the handle's number. -/
theorem Inv.slot_eq (h : s.Inv) (given : s.tickets[n]? = some ticket) : ticket.handle.slot = n := by
  obtain ⟨c, slot, b⟩ := h.agree.backs n ticket given
  exact b.number

theorem Inv.poll_eq (h : s.Inv) (same : LooksLike D s s') (given : s.tickets[n]? = some ticket)
    (hn : D n = false) : s'.table.poll ticket.handle = s.table.poll ticket.handle := by
  have regarded : D ticket.handle.slot = false := by rw [h.slot_eq given, hn]
  exact Table.poll_congr same.table regarded

/-- Alike, and the kernel and the tasks are not different at all. -/
structure Twin (D : Nat → Bool) (s s' : Shared) : Prop extends LooksLike D s s' where
  children : s'.children = s.children
  tasks : s'.tasks = s.tasks

theorem Twin.refl (s : Shared) : Twin D s s := ⟨.refl s, rfl, rfl⟩

theorem Twin.symm (h : Twin D s s') : Twin D s' s :=
  ⟨h.toLooksLike.symm, h.children.symm, h.tasks.symm⟩

theorem Twin.trans (h : Twin D s s') (h' : Twin D s' r) : Twin D s r :=
  ⟨h.toLooksLike.trans h'.toLooksLike, h'.children.trans h.children, h'.tasks.trans h.tasks⟩

/-- What is done with a disregarded handle is not seen. -/
theorem Inv.unseen (h : s.Inv) (step : Step s e t) (uses : e.uses D = true) : Twin D s t := by
  cases step with
  | @receive n ticket answer given held answers =>
    exact ⟨⟨rfl, fun _ => rfl, sight_modify_of uses _ _⟩, rfl, rfl⟩
  | @drop n ticket given held =>
    have dropped : D ticket.handle.slot = true := by rw [h.slot_eq given]; exact uses
    exact ⟨⟨Table.disregard_drop_of dropped, fun _ => rfl, sight_modify_of uses _ _⟩, rfl, rfl⟩
  | begin | spawn | pass | kernel => cases uses

/-- Steps with the same label keep two states alike. -/
theorem LooksLike.step (same : LooksLike D s s') (h : s.Inv) (h' : s'.Inv)
    (regarded : e.uses D = false) (step : Step s e t) (step' : Step s' e t') :
    LooksLike D t t' := by
  cases step with
  | begin idle new =>
    cases step' with
    | begin => exact ⟨same.table, works_assign same.works rfl, same.tickets⟩
  | spawn busy moves starts =>
    cases step' with
    | spawn busy' moves' starts' =>
      obtain ⟨_, known⟩ := same.starting busy
      cases busy'.symm.trans known
      rw [Spawning.step_eq_some] at moves
      obtain ⟨table, again, alike⟩ := moves.disregard same.table
      have forked := h.forked busy moves starts
      have forked' := h'.forked busy' (Spawning.step_eq_some.1 moves') starts'
      cases moves'.symm.trans (Spawning.step_eq_some.2 again)
      exact ⟨alike, works_assign same.works rfl,
        sight_issue same.tickets _ _ fun registers => ⟨forked registers, forked' registers⟩⟩
  | pass busy moves passes =>
    cases step' with
    | pass busy' moves' passes' =>
      obtain ⟨_, known⟩ := same.reaping busy
      cases busy'.symm.trans known
      obtain ⟨table, again, alike⟩ := (Pass.step_eq_some.1 moves).disregard same.table
      cases moves'.symm.trans (Pass.step_eq_some.2 again)
      exact ⟨alike, works_assign same.works rfl, same.tickets⟩
  | kernel =>
    cases step' with
    | kernel => exact ⟨same.table, same.works, same.tickets⟩
  | receive given held answers =>
    cases step' with
    | receive given' held' answers' =>
      obtain ⟨ticket', known, handle, _⟩ := getElem?_of_sight same.tickets given
      obtain rfl := Option.some.inj (given'.symm.trans known)
      rw [handle, h.poll_eq same given regarded, answers] at answers'
      cases answers'
      exact ⟨same.table, same.works, sight_modify same.tickets _ _⟩
  | drop given held =>
    cases step' with
    | drop given' held' =>
      obtain ⟨ticket', known, handle, _⟩ := getElem?_of_sight same.tickets given
      obtain rfl := Option.some.inj (given'.symm.trans known)
      refine ⟨?_, same.works, sight_modify same.tickets _ _⟩
      rw [handle, Table.disregard_drop, Table.disregard_drop, same.table]

/-- Whatever can happen in one of two twins can happen in the other one too. -/
theorem Twin.step (twin : Twin D s s') (h : s.Inv) (h' : s'.Inv) (regarded : e.uses D = false)
    (step : Step s e t) : ∃ t', Step s' e t' ∧ Twin D t t' := by
  have next : ∃ t', Step s' e t' ∧ t'.children = t.children ∧ t'.tasks = t.tasks := by
    cases step with
    | @begin task work idle new =>
      refine ⟨_, .begin (by rw [twin.tasks, idle]) new, twin.children, ?_⟩
      simp only [assign, twin.tasks]
    | spawn busy moves starts =>
      obtain ⟨table, moves', _⟩ := (Spawning.step_eq_some.1 moves).disregard twin.table
      rw [← twin.tasks] at busy
      rw [← twin.children] at starts
      refine ⟨_, .spawn busy (Spawning.step_eq_some.2 moves') starts, rfl, ?_⟩
      simp only [assign, twin.tasks]
    | pass busy moves passes =>
      obtain ⟨table, moves', _⟩ := (Pass.step_eq_some.1 moves).disregard twin.table
      rw [← twin.tasks] at busy
      rw [← twin.children] at passes
      refine ⟨_, .pass busy (Pass.step_eq_some.2 moves') passes, rfl, ?_⟩
      simp only [assign, twin.tasks]
    | kernel changes =>
      rw [← twin.children] at changes
      exact ⟨_, .kernel changes, rfl, twin.tasks⟩
    | receive given held answers =>
      obtain ⟨ticket', given', handle, custody⟩ := getElem?_of_sight twin.tickets given
      rw [← h.poll_eq twin.toLooksLike given regarded, ← handle] at answers
      exact ⟨_, .receive given' ((custody regarded).trans held) answers, twin.children, twin.tasks⟩
    | drop given held =>
      obtain ⟨ticket', given', _, custody⟩ := getElem?_of_sight twin.tickets given
      exact ⟨_, .drop given' ((custody regarded).trans held), twin.children, twin.tasks⟩
  obtain ⟨t', step', children, tasks⟩ := next
  exact ⟨t', step', twin.toLooksLike.step h h' regarded step step', children, tasks⟩

theorem Inv.unseen_run (h : s.Inv) (run : Run Step s es t) (uses : ∀ e ∈ es, e.uses D = true) :
    Twin D s t := by
  have both := run.keeps_along (P := fun u => u.Inv ∧ Twin D s u) (Q := (·.uses D = true))
    (fun uses h step => ⟨h.1.step step, h.2.trans (h.1.unseen step uses)⟩) uses ⟨h, .refl s⟩
  exact both.2

/-- Two runs in which the same happens apart from what is done with the disregarded handles. -/
theorem LooksLike.run (same : LooksLike D s s') (h : s.Inv) (h' : s'.Inv) (run : Run Step s es t)
    (run' : Run Step s' es' t') (hes : apart D es' = apart D es) : LooksLike D t t' := by
  induction run generalizing s' es' with
  | nil =>
    have uses : ∀ e ∈ es', e.uses D = true := by simpa [apart] using hes
    exact same.trans (h'.unseen_run run' uses).toLooksLike
  | @cons s e u es t step rest ih =>
    cases uses : e.uses D with
    | true =>
      have hes' : apart D es' = apart D es := by simpa [apart, uses] using hes
      exact ih ((h.unseen step uses).toLooksLike.symm.trans same) (h.step step) h' run' hes'
    | false =>
      have hes' : apart D es' = e :: apart D es := by simpa [apart, uses] using hes
      obtain ⟨before, after, rfl, unseen, _, hes'⟩ := List.filter_eq_cons_iff.1 hes'
      obtain ⟨u', v', first, step', second⟩ := run'.split_at
      have twin := h'.unseen_run first fun x hx => by simpa using unseen x hx
      have hu := first.keeps (P := Inv) Inv.step h'
      exact ih ((same.trans twin.toLooksLike).step h hu uses step step') (h.step step)
        (hu.step step') second hes'

end PidOne.Shared
