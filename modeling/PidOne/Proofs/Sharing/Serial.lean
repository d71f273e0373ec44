import PidOne.Proofs.Sharing.Preservation

/-!
# Serial runs

In a serial run a start goes from lock to unlock in one step. To each state belongs one without a
start halfway: what the start has done is done to its end, or, as long as it has neither registered
nor collected its child, undone.
-/

namespace PidOne

theorem Table.register_hold (t : Table) (holder : Option TaskId) (pid : Pid) :
    Table.register { t with holder } pid =
      ({ (t.register pid).1 with holder }, (t.register pid).2) := by
  have hw : Table.waiter? { t with holder } pid = t.waiter? pid := rfl
  cases h : t.waiter? pid <;>
    simp [Table.register, Table.displace, hw, h, Table.forget, Table.modifySlot]

/-- Inside, but the start has neither registered nor collected its child. -/
def Spawning.isHalfway : Spawning → Bool
  | .locked | .forked _ | .executing _ | .failed .. => true
  | _ => false

namespace Kernel

def Children.without (k : Children) : Option ChildId → Children
  | none => k
  | some i => Function.update k i none

variable {k : Children} {i j : ChildId} {c : Child}

@[simp] theorem Children.without_self (k : Children) (i : ChildId) : k.without (some i) i = none :=
  Function.update_self ..

theorem Children.without_of_ne (h : j ≠ i) (k : Children) : k.without (some i) j = k j :=
  Function.update_of_ne h ..

theorem Children.without_of_fresh (fresh : k i = none) : k.without (some i) = k := by
  rw [Children.without, ← fresh, Function.update_eq_self]

@[simp] theorem Children.without_set_self (k : Children) (i : ChildId) (c : Child) :
    (k.set i c).without (some i) = k.without (some i) := Function.update_idem ..

theorem Children.without_set_of_ne (h : j ≠ i) (k : Children) (c : Child) :
    (k.set j c).without (some i) = (k.without (some i)).set j c := Function.update_comm h ..

@[simp] theorem Children.set_without (k : Children) (i : ChildId) (c : Child) :
    (k.without (some i)).set i c = k.set i c := Function.update_idem ..

theorem Children.set_of_known (known : k i = some c) : k.set i c = k := by
  rw [Children.set, ← known, Function.update_eq_self]

theorem Children.Free.without {pid : Pid} (h : k.Free pid) (child : Option ChildId) :
    (k.without child).Free pid := by
  cases child with
  | none => exact h
  | some i =>
    intro j c hj
    by_cases hi : j = i
    · simp [hi] at hj
    · exact h j c (Children.without_of_ne hi k ▸ hj)

end Kernel

namespace Shared

open Kernel

/-- A start from lock to unlock. Nothing happens in between, but that a child that could not
execute its program ends. -/
inductive IsWhole (task : TaskId) : List Event → Prop
  | refused : IsWhole task
    [.spawn task .lock, .spawn task (.fork (.error cause)), .spawn task .unlock]
  | failed : IsWhole task
    [.spawn task .lock, .spawn task (.fork (.ok pid)), .spawn task (.exec (some number)),
      .kernel (.exit i e), .spawn task .discard, .spawn task .unlock]
  | registered : IsWhole task
    [.spawn task .lock, .spawn task (.fork (.ok pid)), .spawn task (.exec none),
      .spawn task .register, .spawn task .unlock]

def Event.isOfStart : Event → Bool
  | .spawn .. => true
  | _ => false

/-- A step of a serial run: a start from lock to unlock, while nobody else is inside, or a single
step that is not one of a start. -/
inductive Serial (s : Shared) : List Event → Shared → Prop
  | whole (alone : ∀ other, (s.tasks other).isInside = false) (events : IsWhole task es)
    (run : Run Step s es s') : Serial s es s'
  | single (other : e.isOfStart = false) (step : Step s e s') : Serial s [e] s'

/-- The start of this task stands elsewhere, and so do table, children and handles. -/
def starting (s : Shared) (task : TaskId) (progress : Spawning) (child : Option ChildId)
    (table : Table) (children : Children) (tickets : List Ticket) : Shared where
  table := table
  children := children
  tasks := Function.update s.tasks task (.starting progress child)
  tickets := tickets

/-- The start of this task is out again and stands here, and one child is undone. -/
def conclude (s : Shared) (task : TaskId) (progress : Spawning) (child undone : Option ChildId) :
    Shared :=
  s.starting task progress child { s.table with holder := none } (s.children.without undone)
    (issue s.tickets .unlock progress child)

def settle (s : Shared) : Shared :=
  match s.table.holder with
  | none => s
  | some task =>
    match s.tasks task with
    | .starting (.leaving answer) child => s.conclude task (.done answer) child none
    | .starting _ child => s.conclude task .queued none child
    | _ => s

variable {s s' : Shared} {task other : TaskId} {e : Event} {i : ChildId} {c : Child}
variable {child : Option ChildId} {progress : Spawning} {pass : Pass} {ids : List ChildId}
variable {answer : Except Cause Handle}

theorem starting_self (busy : s.tasks task = .starting progress child) :
    s.starting task progress child s.table s.children s.tickets = s := by
  rw [starting, ← busy, Function.update_eq_self]

theorem settle_of_free (h : s.table.holder = none) : s.settle = s := by
  simp [settle, h]

theorem settle_of_reaping (h : s.table.holder = some task) (busy : s.tasks task = .reaping pass ids) :
    s.settle = s := by
  simp [settle, h, busy]

theorem settle_of_leaving (h : s.table.holder = some task)
    (busy : s.tasks task = .starting (.leaving answer) child) :
    s.settle = s.conclude task (.done answer) child none := by
  simp [settle, h, busy]

theorem settle_of_halfway (h : s.table.holder = some task)
    (busy : s.tasks task = .starting progress child)
    (halfway : progress.isHalfway = true) :
    s.settle = s.conclude task .queued none child := by
  cases progress <;> simp_all [settle, Spawning.isHalfway]

section

variable {t t' : Table} {k k' : Children} {tickets : List Ticket} {event : Spawning.Event}
variable {progress' : Spawning} {child' : Option ChildId} {pid : Pid}

@[simp] theorem starting_tasks_self :
    (s.starting task progress child t k tickets).tasks task = .starting progress child :=
  Function.update_self ..

theorem starting_tasks_of_ne (h : other ≠ task) :
    (s.starting task progress child t k tickets).tasks other = s.tasks other :=
  Function.update_of_ne h ..

@[simp] theorem starting_starting (tickets' : List Ticket) :
    (s.starting task progress child t k tickets).starting task progress' child' t' k' tickets' =
      s.starting task progress' child' t' k' tickets' := by
  simp [starting]

theorem settle_starting_halfway (h : t.holder = some task)
    (halfway : progress.isHalfway = true) :
    (s.starting task progress child t k tickets).settle =
      s.starting task .queued none { t with holder := none } (k.without child) tickets := by
  rw [settle_of_halfway h (Function.update_self ..) halfway, conclude,
    starting_starting]
  rfl

theorem settle_starting_leaving (h : t.holder = some task) :
    (s.starting task (.leaving answer) child t k tickets).settle =
      s.starting task (.done answer) child { t with holder := none } k
        (issue tickets .unlock (.done answer) child) := by
  rw [settle_of_leaving h (Function.update_self ..), conclude, starting_starting]
  rfl

theorem Step.starting (moves : Spawning.Moves task t progress event progress' t')
    (kernel : Starts k child event child' k') :
    Step (s.starting task progress child t k tickets) (.spawn task event)
      (s.starting task progress' child' t' k' (issue tickets event progress' child')) := by
  have step := Step.spawn (s := s.starting task progress child t k tickets)
    (Function.update_self ..) (Spawning.step_eq_some.2 moves) kernel
  simpa [Shared.starting, assign] using step

theorem Step.starting_exit (s : Shared) (task : TaskId) (progress : Spawning)
    (child : Option ChildId) (t : Table) (tickets : List Ticket) (known : k i = some c)
    (running : c.life = .running) (e : Ending) :
    Step (s.starting task progress child t k tickets) (.kernel (.exit i e))
      (s.starting task progress child t (k.set i { c with life := .ended e }) tickets) :=
  .kernel (.exit known running)

theorem register_held (task : TaskId) (t : Table) (pid : Pid) :
    Spawning.Moves task { t with holder := some task } (.executing pid) .register
      (.leaving (.ok (t.register pid).2)) { (t.register pid).1 with holder := some task } := by
  simpa [Table.register_hold] using Spawning.Moves.register (t := { t with holder := some task })

theorem run_refused (s : Shared) (task : TaskId) (t : Table) (k : Children)
    (tickets : List Ticket) (cause : Cause) :
    Run Step (s.starting task .queued none { t with holder := none } k tickets)
      [.spawn task .lock, .spawn task (.fork (.error cause)), .spawn task .unlock]
      (s.starting task (.done (.error cause)) none { t with holder := none } k tickets) :=
  .cons (.starting (.lock rfl) .lock) <|
  .cons (.starting .refuse .refuse) <|
  .single (.starting (.unlock rfl) .unlock)

theorem run_failed (s : Shared) (task : TaskId) (t : Table) (tickets : List Ticket)
    (fresh : k i = none) (free : k.Free pid) (number : Errno) (e : Ending) :
    Run Step (s.starting task .queued none { t with holder := none } k tickets)
      [.spawn task .lock, .spawn task (.fork (.ok pid)), .spawn task (.exec (some number)),
        .kernel (.exit i e), .spawn task .discard, .spawn task .unlock]
      (s.starting task (.done (.error (.errno number))) (some i) { t with holder := none }
        (k.set i ⟨pid, true, .discarded⟩) tickets) := by
  have fail : Spawning.Moves task { t with holder := some task } (.forked pid)
    (.exec (some number)) (.failed pid (.errno number)) _ := .fail
  have run : Run Step (s.starting task .queued none { t with holder := none } k tickets) _ _ :=
    .cons (.starting (.lock rfl) .lock) <|
    .cons (.starting .fork (.fork fresh free)) <|
    .cons (.starting fail .exec) <|
    .cons (.starting_exit _ _ _ _ _ _ (Children.set_self ..) rfl e) <|
    .cons (.starting .discard (.discard (Children.set_self ..) rfl)) <|
    .single (.starting (.unlock rfl) .unlock)
  simpa [issue] using run

theorem run_registered (s : Shared) (task : TaskId) (t : Table) (tickets : List Ticket)
    (fresh : k i = none) (free : k.Free pid) :
    Run Step (s.starting task .queued none { t with holder := none } k tickets)
      [.spawn task .lock, .spawn task (.fork (.ok pid)), .spawn task (.exec none),
        .spawn task .register, .spawn task .unlock]
      (s.starting task (.done (.ok (t.register pid).2)) (some i)
        { (t.register pid).1 with holder := none } (k.set i ⟨pid, true, .running⟩)
        (issue (tickets ++ [⟨(t.register pid).2, i, .issuing⟩]) .unlock
          (.done (.ok (t.register pid).2)) (some i))) :=
  .cons (.starting (.lock rfl) .lock) <|
  .cons (.starting .fork (.fork fresh free)) <|
  .cons (.starting .exec .exec) <|
  .cons (.starting (register_held task t pid) .register) <|
  .single (.starting (.unlock rfl) .unlock)

end

end Shared

end PidOne
