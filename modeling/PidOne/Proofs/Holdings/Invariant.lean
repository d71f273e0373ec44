import PidOne.Proofs.Holdings

/-!
# Tables and their ledgers

A table is there as long as somebody holds it, whoever is inside holds its lock, and its ledger
tells what its slots hold.
-/

namespace PidOne

open Kernel

/-- The PID of a child that a start has forked and is about to register. -/
def Work.pending? : Work → Option Pid
  | .starting (.forked pid) | .starting (.executing pid) => some pid
  | _ => none

theorem Work.isInside_of_pending? {w : Work} {pid : Pid} (h : w.pending? = some pid) :
    w.isInside = true := by
  cases w with
  | starting progress =>
    cases progress with
    | forked | executing => rfl
    | _ => cases h
  | idle | reaping => cases h

namespace Holdings

section Counting

variable {holders : List (Option Holder)} {n : Nat} {i j : TaskId} {x y : Holder}
variable {o : Option Holder}

def clones (holders : List (Option Holder)) (n : Nat) : Nat :=
  holders.countP fun o => o.any (·.table == n)

theorem clones_pos_iff : 0 < clones holders n ↔
    ∃ (i : TaskId) (x : Holder), holders[i]? = some (some x) ∧ x.table = n := by
  rw [clones, List.countP_pos_iff]
  constructor
  · rintro ⟨o, ho, table⟩
    obtain ⟨x, rfl, table⟩ := (Option.any_eq_true ..).1 table
    obtain ⟨i, hi⟩ := List.getElem?_of_mem ho
    exact ⟨i, x, hi, by simpa using table⟩
  · rintro ⟨i, x, hi, rfl⟩
    exact ⟨some x, List.mem_of_getElem? hi, by simp⟩

theorem clones_append (x : Holder) :
    clones (holders ++ [some x]) n = clones holders n + if x.table = n then 1 else 0 := by
  simp [clones, List.countP_append, List.countP_singleton]

/-- What a holder counted for, whatever comes in its place counts for. -/
theorem clones_set (held : holders[i]? = some (some x)) :
    clones (holders.set i o) n + (if x.table = n then 1 else 0) =
      clones holders n + if o.any (·.table == n) then 1 else 0 := by
  obtain ⟨bound, hi⟩ := List.getElem?_eq_some_iff.1 held
  rw [clones, List.countP_set bound, hi]
  by_cases same : x.table = n
  · have counted : 0 < clones holders n := clones_pos_iff.2 ⟨i, x, held, same⟩
    simp only [clones] at counted
    simp only [clones, same, Option.any_some, beq_self_eq_true, if_true]
    omega
  · simp [clones, same]

theorem clones_set_same (held : holders[i]? = some (some x)) (same : y.table = x.table) :
    clones (holders.set i (some y)) n = clones holders n := by
  have count := clones_set (o := some y) (n := n) held
  simp only [Option.any_some, same, beq_iff_eq] at count
  omega

theorem clones_map (f : Holder → Holder) (same : ∀ x, (f x).table = x.table) :
    clones (holders.map (Option.map f)) n = clones holders n := by
  rw [clones, List.countP_map, clones]
  refine List.countP_congr fun o _ => ?_
  cases o <;> simp [same]

theorem set_self (held : holders[i]? = some (some x)) : (holders.set i o)[i]? = some o := by
  obtain ⟨bound, _⟩ := List.getElem?_eq_some_iff.1 held
  simp [bound]

theorem getElem?_set_iff (held : holders[i]? = some (some x)) :
    (holders.set i o)[j]? = some (some y) ↔
      j = i ∧ o = some y ∨ j ≠ i ∧ holders[j]? = some (some y) := by
  by_cases same : j = i
  · subst same
    simp [set_self held]
  · simp [List.getElem?_set_ne (Ne.symm same), same]

end Counting

structure Inv (s : Holdings) : Prop where
  counted : ∀ n, s.registry.count n = clones s.holders n
  fresh : ∀ n, s.registry.tables.length ≤ n → s.ledgers n = {}
  agrees : ∀ n, (s.ledgers n).Agrees (s.registry.get n) (decide (0 < s.registry.count n))
  locked : ∀ n i, (s.registry.get n).holder = some i ↔
    ∃ x, s.holders[i]? = some (some x) ∧ x.table = n ∧ x.user.work.isInside = true
  pending : ∀ (i : TaskId) x pid, s.holders[i]? = some (some x) →
    x.user.work.pending? = some pid →
    (s.registry.get x.table).waiter? pid = none ∧ ∃ j, x.child = some j

theorem Inv.start : Inv {} where
  counted _ := rfl
  fresh _ _ := rfl
  agrees _ := .start
  locked n i := by simp [Registry.get]
  pending i x pid held := by cases held

variable {s s' : Holdings} {i j : TaskId} {x y : Holder} {n : Nat} {e : Event}

theorem Inv.alive (h : s.Inv) (held : s.holders[i]? = some (some x)) :
    0 < s.registry.count x.table := by
  rw [h.counted]
  exact clones_pos_iff.2 ⟨i, x, held, rfl⟩

theorem Inv.agrees_of_held (h : s.Inv) (held : s.holders[i]? = some (some x)) :
    (s.ledgers x.table).Agrees (s.registry.get x.table) true := by
  simpa [h.alive held] using h.agrees x.table

theorem Inv.inside_iff (h : s.Inv) (held : s.holders[i]? = some (some x)) :
    x.user.work.isInside = true ↔ (s.registry.get x.table).holder = some i := by
  rw [h.locked]
  constructor
  · intro inside
    exact ⟨x, held, rfl, inside⟩
  · rintro ⟨y, held', _, inside⟩
    cases held.symm.trans held'
    exact inside

/-- While a start is about to register, nobody else does anything at its table. -/
theorem Inv.other_of_pending (h : s.Inv) (held : s.holders[i]? = some (some x))
    (other : s.holders[j]? = some (some y)) (ne : j ≠ i) (table : y.table = x.table) {pid : Pid}
    (pending : y.user.work.pending? = some pid) {part : User.Part} {w' : Work} {t' : Table}
    (moves : User.Moves i (s.registry.get x.table) x.user.work part w' t') :
    part = .other ∧ t' = s.registry.get x.table := by
  have inside := (h.inside_iff other).1 (Work.isInside_of_pending? pending)
  rw [table] at inside
  apply moves.other_of_held inside
  rw [Bool.eq_false_iff, Ne, h.inside_iff held, inside]
  simpa using ne

theorem record_of_status?_eq_none {answer : WaitAnswer} (nothing : answer.status? = none)
    (l : Ledger) (w : Work) (child : Option ChildId) :
    record l (.pass (.wait answer)) w child = l := by
  cases child <;> simp [record, nothing]

/-- A step at a table and what is put down of it. -/
theorem agrees_of_moves {task : TaskId} {l : Ledger} {t t' : Table} {w w' : Work}
    {part : User.Part} {k k' : Children} {child child' : Option ChildId} (h : l.Agrees t true)
    (moves : User.Moves task t w part w' t') (serves : Serves k t child part child' k')
    (pending : ∀ pid, w.pending? = some pid → t.waiter? pid = none ∧ ∃ j, child = some j) :
    (record l part w' child').Agrees t' true := by
  cases moves with
  | other => exact h
  | start moves =>
    cases moves with
    | lock | unlock => exact h.same rfl rfl
    | fork | refuse | exec | fail | discard => exact h
    | @register pid =>
      obtain ⟨free, j, rfl⟩ := pending pid rfl
      cases serves with
      | start starts =>
        cases starts
        exact h.register free j
  | pass moves =>
    cases moves with
    | lock | unlock => exact h.same rfl rfl
    | collect reported =>
      cases serves with
      | pass passes =>
        cases passes with
        | wait answers =>
          obtain ⟨j, c, ending, rfl, _⟩ := answers.of_status? reported
          simp only [record, reported]
          exact h.collect j _
    | skip nothing =>
      rw [record_of_status?_eq_none nothing]
      exact h
    | close closes =>
      rw [record_of_status?_eq_none (WaitAnswer.status?_eq_none_of_closes closes)]
      exact h

/-- A start that has forked a child knows which, and no PID is given out for which the table still
waits. -/
theorem pending_of_moves {task : TaskId} {t t' : Table} {w w' : Work} {part : User.Part}
    {k k' : Children} {child child' : Option ChildId} {pid : Pid}
    (moves : User.Moves task t w part w' t') (serves : Serves k t child part child' k')
    (before : ∀ pid, w.pending? = some pid → t.waiter? pid = none ∧ ∃ j, child = some j)
    (after : w'.pending? = some pid) : t'.waiter? pid = none ∧ ∃ j, child' = some j := by
  cases moves with
  | other _ outside => exact nomatch outside.symm.trans (Work.isInside_of_pending? after)
  | start moves =>
    cases moves with
    | fork =>
      cases after
      cases serves with
      | start starts fresh =>
        cases starts
        exact ⟨fresh pid rfl, _, rfl⟩
    | exec =>
      cases after
      cases serves with
      | start starts =>
        cases starts
        exact before pid rfl
    | _ => cases after
  | pass => cases after

/-- Another user of the same kind in the same place. -/
structure Resembles (holders holders' : List (Option Holder)) : Prop where
  clones : ∀ n, clones holders' n = clones holders n
  back : ∀ (i : TaskId) y, holders'[i]? = some (some y) → ∃ x, holders[i]? = some (some x) ∧
    y.table = x.table ∧ y.user.work = x.user.work ∧ y.child = x.child
  forth : ∀ (i : TaskId) x, holders[i]? = some (some x) → ∃ y, holders'[i]? = some (some y) ∧
    y.table = x.table ∧ y.user.work = x.user.work ∧ y.child = x.child

theorem Resembles.stop {holders : List (Option Holder)} (held : holders[i]? = some (some x)) :
    Resembles holders (holders.set i (some { x with user := x.user.requestStop })) where
  clones n := clones_set_same held rfl
  back j y found := by
    rcases (getElem?_set_iff held).1 found with ⟨rfl, same⟩ | ⟨_, found⟩
    · cases same
      exact ⟨x, held, rfl, User.work_requestStop _, rfl⟩
    · exact ⟨y, found, rfl, rfl, rfl⟩
  forth j y found := by
    by_cases same : j = i
    · subst same
      cases held.symm.trans found
      exact ⟨_, set_self held, rfl, User.work_requestStop _, rfl⟩
    · rw [List.getElem?_set_ne (Ne.symm same)]
      exact ⟨y, found, rfl, rfl, rfl⟩

theorem Resembles.signal (holders : List (Option Holder)) (z : Signal) :
    Resembles holders
      (holders.map fun o => o.map fun x => { x with user := x.user.arrive z }) where
  clones n := clones_map _ fun _ => rfl
  back i y found := by
    rw [List.getElem?_map, Option.map_eq_some_iff] at found
    obtain ⟨o, held, found⟩ := found
    obtain ⟨x, rfl, rfl⟩ := Option.map_eq_some_iff.1 found
    exact ⟨x, held, rfl, User.work_arrive _ _, rfl⟩
  forth i x held := by
    rw [List.getElem?_map, held]
    exact ⟨_, rfl, rfl, User.work_arrive _ _, rfl⟩

theorem Inv.resembling {holders : List (Option Holder)} (h : s.Inv)
    (same : Resembles s.holders holders) : Inv { s with holders } where
  counted n := by rw [same.clones, h.counted]
  fresh := h.fresh
  agrees := h.agrees
  locked n i := by
    rw [h.locked]
    constructor
    · rintro ⟨x, held, table, inside⟩
      obtain ⟨y, held', table', work, _⟩ := same.forth i x held
      exact ⟨y, held', table'.trans table, work ▸ inside⟩
    · rintro ⟨y, held', table, inside⟩
      obtain ⟨x, held, table', work, _⟩ := same.back i y held'
      exact ⟨x, held, table' ▸ table, work ▸ inside⟩
  pending i y pid held' pending := by
    obtain ⟨x, held, table, work, child⟩ := same.back i y held'
    rw [table, child]
    exact h.pending i x pid held (work ▸ pending)

/-- Someone new comes to a table, which is new as well or has been there. -/
theorem Inv.joined (h : s.Inv) {r : Registry} (outside : x.user.work.isInside = false)
    (grown : s.registry.tables.length ≤ r.tables.length)
    (get : ∀ n, r.get n = s.registry.get n)
    (count : ∀ n, r.count n = s.registry.count n + if x.table = n then 1 else 0)
    (agrees : (s.ledgers x.table).Agrees (s.registry.get x.table) true) :
    Inv { s with registry := r, holders := s.holders ++ [some x] } where
  counted n := by rw [count, clones_append, h.counted]
  fresh n new := h.fresh n (Nat.le_trans grown new)
  agrees n := by
    rw [get, count]
    by_cases same : x.table = n
    · subst same
      simpa using agrees
    · simpa [same] using h.agrees n
  locked n i := by
    rw [get, h.locked]
    constructor
    · rintro ⟨y, held, inside⟩
      exact ⟨y, getElem?_concat_eq_some.2 (.inl held), inside⟩
    · rintro ⟨y, held, table, inside⟩
      rcases getElem?_concat_eq_some.1 held with held | ⟨_, same⟩
      · exact ⟨y, held, table, inside⟩
      · cases same
        exact nomatch outside.symm.trans inside
  pending i y pid held pending := by
    rw [get]
    rcases getElem?_concat_eq_some.1 held with held | ⟨_, same⟩
    · exact h.pending i y pid held pending
    · cases same
      exact nomatch outside.symm.trans (Work.isInside_of_pending? pending)

theorem Inv.created (h : s.Inv) : Inv { s with
    registry := s.registry.create.1
    holders := s.holders ++ [some ⟨s.registry.create.2, .caller .idle, none⟩] } := by
  apply h.joined rfl
  · simp [Registry.length_create]
  · exact fun n => Registry.get_create
  · exact fun n => Registry.count_create
  · have fresh : s.ledgers s.registry.create.2 = {} := h.fresh _ Nat.le.refl
    simp only [Registry.get_new, fresh]
    exact .start

theorem Inv.cloned (h : s.Inv) (held : s.holders[i]? = some (some x)) (use : Use) : Inv { s with
    registry := s.registry.clone x.table
    holders := s.holders ++ [some ⟨x.table, use.user, none⟩] } := by
  have outside : use.user.work.isInside = false := by cases use <;> rfl
  apply h.joined outside
  · simp [Registry.length_clone]
  · exact fun n => Registry.get_clone
  · exact fun n => Registry.count_clone (h.alive held)
  · exact h.agrees_of_held (x := x) held

theorem Inv.released (h : s.Inv) (held : s.holders[i]? = some (some x)) : Inv { s with
    registry := (s.registry.set x.table ((s.registry.get x.table).leave i)).release x.table
    holders := s.holders.set i none } := by
  have alive := h.alive held
  have there := h.agrees_of_held held
  constructor
  · intro n
    have before := clones_set (o := none) (n := n) held
    have after := Registry.count_release_set (t := (s.registry.get x.table).leave i) (m := n) alive
    rw [h.counted] at after
    simp only [Option.any_none, Bool.false_eq_true, if_false] at before
    dsimp only
    omega
  · intro n new
    rw [Registry.length_release_set] at new
    exact h.fresh n new
  · intro n
    have after := Registry.count_release_set (t := (s.registry.get x.table).leave i) (m := n) alive
    dsimp only
    rw [Registry.get_release_set alive]
    by_cases same : n = x.table
    · subst same
      rw [if_pos rfl] at after ⊢
      have left : (s.ledgers x.table).Agrees ((s.registry.get x.table).leave i) true :=
        there.same Table.waiters_leave Table.slots_leave
      split
      · rw [decide_eq_false (by omega)]
        exact left.close
      · rw [decide_eq_true (by omega)]
        exact left
    · rw [if_neg (Ne.symm same)] at after
      rw [if_neg same, ← Nat.add_zero (Registry.count ..), after]
      exact h.agrees n
  · intro n j
    have holder : (((s.registry.set x.table ((s.registry.get x.table).leave i)).release
        x.table).get n).holder = some j ↔
          (s.registry.get n).holder = some j ∧ (n = x.table → j ≠ i) := by
      rw [Registry.get_release_set alive]
      by_cases same : n = x.table
      · subst same
        rw [if_pos rfl]
        split
        · simp [Table.holder_close, Table.holder_leave]
        · simp [Table.holder_leave]
      · simp [same]
    rw [holder, h.locked]
    constructor
    · rintro ⟨⟨y, held', rfl, inside⟩, other⟩
      refine ⟨y, (getElem?_set_iff held).2 (.inr ⟨?_, held'⟩), rfl, inside⟩
      rintro rfl
      cases held.symm.trans held'
      exact other rfl rfl
    · rintro ⟨y, held', table, inside⟩
      rcases (getElem?_set_iff held).1 held' with ⟨_, none⟩ | ⟨other, held'⟩
      · cases none
      · exact ⟨⟨y, held', table, inside⟩, fun _ => other⟩
  · intro j y pid held' pending
    rcases (getElem?_set_iff held).1 held' with ⟨_, none⟩ | ⟨_, held'⟩
    · cases none
    · obtain ⟨free, known⟩ := h.pending j y pid held' pending
      refine ⟨?_, known⟩
      dsimp only
      rw [Registry.get_release_set alive]
      split
      · rename_i same
        split
        · rfl
        · rw [Table.waiter?, Table.waiters_leave, ← same]
          exact free
      · exact free

theorem Inv.acted (h : s.Inv) (held : s.holders[i]? = some (some x)) {u : User} {t : Table}
    {child : Option ChildId} {part : User.Part} {k : Children}
    (moves : User.Moves i (s.registry.get x.table) x.user.work part u.work t)
    (serves : Serves s.children (s.registry.get x.table) x.child part child k) : Inv {
      registry := s.registry.set x.table t
      holders := s.holders.set i (some { x with user := u, child := child })
      children := k
      ledgers := Function.update s.ledgers x.table
        (record (s.ledgers x.table) part u.work child) } where
  counted n := by
    have count : clones (s.holders.set i (some { x with user := u, child := child })) n =
        clones s.holders n := clones_set_same held rfl
    rw [Registry.count_set, count, h.counted]
  fresh n new := by
    rw [Registry.length_set] at new
    dsimp only
    rw [Function.update_of_ne]
    · exact h.fresh n new
    · rintro rfl
      exact absurd (Registry.lt_of_count (h.alive held)) (Nat.not_lt.2 new)
  agrees n := by
    dsimp only
    rw [Registry.get_set (Registry.lt_of_count (h.alive held)), Registry.count_set,
      Function.update_apply]
    by_cases same : n = x.table
    · subst same
      rw [if_pos rfl, if_pos rfl, decide_eq_true (h.alive held)]
      exact agrees_of_moves (h.agrees_of_held held) moves serves fun pid => h.pending i x pid held
    · rw [if_neg same, if_neg same]
      exact h.agrees n
  locked n j := by
    rw [Registry.get_set (Registry.lt_of_count (h.alive held))]
    obtain ⟨own, others⟩ := moves.inside (h.inside_iff held)
    by_cases same : n = x.table
    · subst same
      rw [if_pos rfl]
      by_cases acting : j = i
      · subst acting
        rw [← own]
        simp [set_self held]
      · rw [others j acting, h.locked, List.getElem?_set_ne (Ne.symm acting)]
    · rw [if_neg same, h.locked]
      apply exists_congr
      intro y
      rw [getElem?_set_iff held]
      constructor
      · rintro ⟨held', rfl, inside⟩
        refine ⟨.inr ⟨?_, held'⟩, rfl, inside⟩
        rintro rfl
        cases held.symm.trans held'
        exact same rfl
      · rintro ⟨⟨_, new⟩ | ⟨_, held'⟩, rfl, inside⟩
        · cases new
          exact absurd rfl same
        · exact ⟨held', rfl, inside⟩
  pending j y pid held' pending := by
    rw [Registry.get_set (Registry.lt_of_count (h.alive held))]
    rcases (getElem?_set_iff held).1 held' with ⟨rfl, same⟩ | ⟨other, held'⟩
    · cases same
      rw [if_pos rfl]
      exact pending_of_moves moves serves (fun pid => h.pending j x pid held) pending
    · split
      · rename_i table
        rw [(h.other_of_pending held held' other table pending moves).2, ← table]
        exact h.pending j y pid held' pending
      · exact h.pending j y pid held' pending

theorem Inv.dropped (h : s.Inv) (n slot : Nat) : Inv { s with
    registry := s.registry.set n ((s.registry.get n).modifySlot slot .disown)
    ledgers := Function.update s.ledgers n ((s.ledgers n).drop slot) } := by
  by_cases known : n < s.registry.tables.length
  · constructor
    · intro m
      rw [Registry.count_set, h.counted]
    · intro m new
      rw [Registry.length_set] at new
      dsimp only
      rw [Function.update_of_ne (by omega)]
      exact h.fresh m new
    · intro m
      dsimp only
      rw [Registry.get_set known, Registry.count_set, Function.update_apply]
      by_cases same : m = n
      · subst same
        rw [if_pos rfl, if_pos rfl]
        exact (h.agrees m).drop slot
      · rw [if_neg same, if_neg same]
        exact h.agrees m
    · intro m i
      rw [Registry.get_set known, ← h.locked]
      split
      · rename_i same
        rw [same]
        rfl
      · rfl
    · intro i x pid held pending
      rw [Registry.get_set known]
      split
      · rename_i same
        rw [Table.waiter?_modifySlot, ← same]
        exact h.pending i x pid held pending
      · exact h.pending i x pid held pending
  · have fresh := h.fresh n (Nat.not_lt.1 known)
    have same : (s.ledgers n).drop slot = s.ledgers n := by
      simp [fresh, Ledger.drop]
    rw [Registry.set_of_le (Nat.not_lt.1 known), same, Function.update_eq_self]
    exact h

theorem Inv.step (h : s.Inv) (step : Step s e s') : s'.Inv := by
  cases step with
  | create => exact h.created
  | clone held => exact h.cloned held _
  | act held moves serves => exact h.acted held (.of_step moves) serves
  | stop held => exact h.resembling (.stop held)
  | signal => exact h.resembling (.signal _ _)
  | release held => exact h.released held
  | drop => exact h.dropped _ _
  | kernel => exact ⟨h.counted, h.fresh, h.agrees, h.locked, h.pending⟩

theorem inv_of_run {es : List Event} (run : Run Step {} es s) : s.Inv :=
  run.keeps Inv.step .start

end Holdings

end PidOne
