import PidOne.Proofs.Holdings.Invariant
import PidOne.Proofs.Table.Ownership

/-!
# Each table hands over what is its own

As long as no PID is given out for which a table waits or that a start is about to register, each
table hands over to a handle the status of the handle's own child.
-/

namespace PidOne

open Kernel

/-- The PID that the kernel gives out. -/
def User.Part.given? : User.Part → Option Pid
  | .start e => forked? e
  | _ => none

namespace Holdings

def Event.given? : Event → Option Pid
  | .act _ e => e.part.given?
  | .kernel e => adopted? e
  | _ => none

structure Spares (s : Holdings) (e : Event) : Prop where
  waits : ∀ pid, e.given? = some pid → ∀ n, (s.registry.get n).waiter? pid = none
  pending : ∀ pid, e.given? = some pid → ∀ (i : TaskId) x, s.holders[i]? = some (some x) →
    x.user.work.pending? ≠ some pid

structure Owned (s : Holdings) : Prop where
  ledgers : ∀ n, (s.ledgers n).Owns s.children (decide (0 < s.registry.count n))
  pending : ∀ (i : TaskId) x pid j, s.holders[i]? = some (some x) →
    x.user.work.pending? = some pid → x.child = some j →
    (s.ledgers x.table).Expects s.children j pid

theorem Owned.start : Owned {} where
  ledgers _ := .start
  pending i x pid j held := by cases held

variable {s s' : Holdings} {i j : TaskId} {x y : Holder} {n : Nat} {e : Event}

theorem Serves.evolves {k k' : Children} {t : Table} {child child' : Option ChildId}
    {part : User.Part} (h : Serves k t child part child' k') : Evolves k part.given? k' := by
  cases h with
  | start starts => exact starts.evolves
  | pass passes => exact passes.evolves
  | other => exact .refl ..

/-- A PID for which a table does not wait is that of none of its children that are to be
collected. -/
theorem spared_of_waiter? {l : Ledger} {t : Table} {alive : Bool} {given : Option Pid}
    (agrees : l.Agrees t alive) (spared : ∀ pid, given = some pid → t.waiter? pid = none) :
    ∀ ticket ∈ l.tickets, l.served? ticket = none → alive = true →
      given ≠ some ticket.handle.pid := by
  intro ticket issued unserved there same
  obtain ⟨k, hk⟩ := List.getElem?_of_mem issued
  have waits := (agrees.waits _ k).2 ⟨ticket, hk, rfl, unserved, there⟩
  exact nomatch (spared _ same).symm.trans waits

theorem owns_of_moves {task : TaskId} {l : Ledger} {t t' : Table} {w w' : Work}
    {part : User.Part} {k k' : Children} {child child' : Option ChildId} (h : l.Owns k true)
    (agrees : l.Agrees t true) (moves : User.Moves task t w part w' t')
    (serves : Serves k t child part child' k')
    (spared : ∀ pid, part.given? = some pid → t.waiter? pid = none)
    (known : ∀ pid, w.pending? = some pid → ∃ j, child = some j)
    (pending : ∀ pid j, w.pending? = some pid → child = some j → l.Expects k j pid) :
    (record l part w' child').Owns k' true := by
  have evolved := h.evolve serves.evolves (spared_of_waiter? agrees spared)
  cases moves with
  | other => exact evolved
  | start moves =>
    cases moves with
    | lock | unlock | fork | refuse | exec | fail | discard => exact evolved
    | @register pid =>
      obtain ⟨j, rfl⟩ := known pid rfl
      cases serves with
      | start starts =>
        cases starts
        have expects := pending pid j rfl rfl
        exact h.issue expects
  | pass moves =>
    cases moves with
    | lock | unlock => exact evolved
    | collect reported =>
      cases serves with
      | pass passes =>
        cases passes with
        | wait answers =>
          obtain ⟨j, c, ending, rfl, known, ended, rfl, rfl⟩ := answers.of_status? reported
          simp only [record, reported]
          apply h.collect _ known ended
          intro ticket issued
          obtain ⟨k, hk⟩ := List.getElem?_of_mem issued
          exact agrees.since k ticket hk
    | skip nothing =>
      rw [record_of_status?_eq_none nothing]
      exact evolved
    | close closes =>
      rw [record_of_status?_eq_none (WaitAnswer.status?_eq_none_of_closes closes)]
      exact evolved

theorem expects_of_moves {task : TaskId} {l : Ledger} {t t' : Table} {w w' : Work}
    {part : User.Part} {k k' : Children} {child child' : Option ChildId} {pid : Pid}
    {i : ChildId} (h : l.Owns k true) (moves : User.Moves task t w part w' t')
    (serves : Serves k t child part child' k')
    (pending : ∀ pid j, w.pending? = some pid → child = some j → l.Expects k j pid)
    (after : w'.pending? = some pid) (forked : child' = some i) :
    (record l part w' child').Expects k' i pid := by
  cases moves with
  | other _ outside => exact nomatch outside.symm.trans (Work.isInside_of_pending? after)
  | start moves =>
    cases moves with
    | fork =>
      cases after
      cases serves with
      | start starts =>
        cases starts with
        | fork fresh free =>
          cases forked
          exact h.expects fresh free
    | exec =>
      cases after
      cases serves with
      | start starts =>
        cases starts
        exact pending pid i rfl forked
    | _ => cases after
  | pass => cases after

theorem Owned.acted (h : s.Owned) (inv : s.Inv) (held : s.holders[i]? = some (some x)) {u : User}
    {t : Table} {child : Option ChildId} {part : User.Part} {k : Children}
    (moves : User.Moves i (s.registry.get x.table) x.user.work part u.work t)
    (serves : Serves s.children (s.registry.get x.table) x.child part child k)
    (waits : ∀ pid, part.given? = some pid → ∀ n, (s.registry.get n).waiter? pid = none)
    (free : ∀ pid, part.given? = some pid → ∀ (i : TaskId) x, s.holders[i]? = some (some x) →
      x.user.work.pending? ≠ some pid) : Owned {
      registry := s.registry.set x.table t
      holders := s.holders.set i (some { x with user := u, child := child })
      children := k
      ledgers := Function.update s.ledgers x.table
        (record (s.ledgers x.table) part u.work child) } := by
  have own : (s.ledgers x.table).Owns s.children true := by
    simpa [inv.alive held] using h.ledgers x.table
  have pending : ∀ pid j, x.user.work.pending? = some pid → x.child = some j →
      (s.ledgers x.table).Expects s.children j pid := fun pid j => h.pending i x pid j held
  constructor
  · intro n
    dsimp only
    rw [Registry.count_set, Function.update_apply]
    split
    · rename_i same
      rw [same, decide_eq_true (inv.alive held)]
      exact owns_of_moves own (inv.agrees_of_held held) moves serves
        (fun pid given => waits pid given _) (fun pid hp => (inv.pending i x pid held hp).2) pending
    · exact (h.ledgers n).evolve serves.evolves
        (spared_of_waiter? (inv.agrees n) fun pid given => waits pid given n)
  · intro j y pid c held' hp forked
    dsimp only
    rcases (getElem?_set_iff held).1 held' with ⟨rfl, same⟩ | ⟨other, held'⟩
    · cases same
      rw [Function.update_self]
      exact expects_of_moves own moves serves pending hp forked
    · have expects := h.pending j y pid c held' hp forked
      have spared : part.given? ≠ some pid := fun given => free pid given j y held' hp
      rw [Function.update_apply]
      split
      · rename_i table
        obtain ⟨rfl, _⟩ := inv.other_of_pending held held' other table hp moves
        rw [← table]
        exact expects.evolve serves.evolves spared
      · exact expects.evolve serves.evolves spared

theorem Owned.resembling {holders : List (Option Holder)} (h : s.Owned)
    (same : Resembles s.holders holders) : Owned { s with holders } where
  ledgers := h.ledgers
  pending i y pid j held' pending forked := by
    obtain ⟨x, held, table, work, child⟩ := same.back i y held'
    rw [table]
    exact h.pending i x pid j held (work ▸ pending) (child ▸ forked)

theorem Owned.joined (h : s.Owned) {r : Registry} (outside : x.user.work.isInside = false)
    (ledgers : ∀ n, (s.ledgers n).Owns s.children (decide (0 < r.count n))) :
    Owned { s with registry := r, holders := s.holders ++ [some x] } where
  ledgers := ledgers
  pending i y pid j held pending forked := by
    rcases getElem?_concat_eq_some.1 held with held | ⟨_, same⟩
    · exact h.pending i y pid j held pending forked
    · cases same
      exact nomatch outside.symm.trans (Work.isInside_of_pending? pending)

theorem Owned.created (h : s.Owned) (inv : s.Inv) : Owned { s with
    registry := s.registry.create.1
    holders := s.holders ++ [some ⟨s.registry.create.2, .caller .idle, none⟩] } := by
  apply h.joined rfl
  intro n
  rw [Registry.count_create]
  split
  · have fresh : s.ledgers n = {} := inv.fresh n (Nat.le_of_eq ‹_›)
    rw [fresh]
    exact .start
  · exact h.ledgers n

theorem Owned.cloned (h : s.Owned) (inv : s.Inv) (held : s.holders[i]? = some (some x))
    (use : Use) : Owned { s with
      registry := s.registry.clone x.table
      holders := s.holders ++ [some ⟨x.table, use.user, none⟩] } := by
  have outside : use.user.work.isInside = false := by cases use <;> rfl
  apply h.joined outside
  intro n
  refine (h.ledgers n).mono fun there => ?_
  rw [Registry.count_clone (inv.alive held)] at there
  split at there
  · rename_i same
    simpa [← same] using inv.alive held
  · exact there

theorem Owned.released (h : s.Owned) (inv : s.Inv) (held : s.holders[i]? = some (some x)) :
    Owned { s with
      registry := (s.registry.set x.table ((s.registry.get x.table).leave i)).release x.table
      holders := s.holders.set i none } where
  ledgers n := by
    refine (h.ledgers n).mono fun there => ?_
    have count := Registry.count_release_set (t := (s.registry.get x.table).leave i) (m := n)
      (inv.alive held)
    simp only [decide_eq_true_eq] at there ⊢
    omega
  pending j y pid c held' := by
    rcases (getElem?_set_iff held).1 held' with ⟨_, none⟩ | ⟨_, held'⟩
    · cases none
    · exact h.pending j y pid c held'

theorem Owned.dropped (h : s.Owned) (n slot : Nat) : Owned { s with
    registry := s.registry.set n ((s.registry.get n).modifySlot slot .disown)
    ledgers := Function.update s.ledgers n ((s.ledgers n).drop slot) } where
  ledgers m := by
    dsimp only
    rw [Registry.count_set, Function.update_apply]
    split
    · rename_i same
      rw [same]
      exact (h.ledgers n).drop slot
    · exact h.ledgers m
  pending i x pid j held pending forked := by
    have expects := h.pending i x pid j held pending forked
    dsimp only
    rw [Function.update_apply]
    split
    · rename_i same
      rw [← same]
      exact ⟨expects.known, expects.alone, expects.uncollected⟩
    · exact expects

theorem Owned.step (h : s.Owned) (inv : s.Inv) (step : Step s e s') (spares : Spares s e) :
    s'.Owned := by
  cases step with
  | create => exact h.created inv
  | clone held => exact h.cloned inv held _
  | act held moves serves =>
    exact h.acted inv held (.of_step moves) serves spares.waits spares.pending
  | stop held => exact h.resembling (.stop held)
  | signal => exact h.resembling (.signal _ _)
  | release held => exact h.released inv held
  | drop => exact h.dropped _ _
  | kernel changes =>
    constructor
    · intro n
      exact (h.ledgers n).evolve changes.evolves
        (spared_of_waiter? (inv.agrees n) fun pid given => spares.waits pid given n)
    · intro i x pid j held pending child
      exact (h.pending i x pid j held pending child).evolve changes.evolves
        fun given => spares.pending pid given i x held pending

/-- A step in which the kernel gives out no PID that a table or a start has need of. -/
def Sparing (s : Holdings) (e : Event) (s' : Holdings) : Prop := Step s e s' ∧ Spares s e

theorem owned_of_run {es : List Event} (run : Run Sparing {} es s) : s.Owned := by
  have both := run.keeps (P := fun s => s.Inv ∧ s.Owned) ?_ ⟨.start, .start⟩
  · exact both.2
  · rintro s e t ⟨inv, owned⟩ ⟨step, spares⟩
    exact ⟨inv.step step, owned.step inv step spares⟩

end Holdings

end PidOne
