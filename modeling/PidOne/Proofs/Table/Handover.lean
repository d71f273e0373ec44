import PidOne.Proofs.Table.Waiters

/-!
# The handover of statuses

What becomes of a table when one status after another is collected. A status that is sent to a
waiter is the first one with its PID, and nobody waits for this PID from then on.
-/

namespace PidOne.Table

def collectAll (t : Table) (statuses : List ExitStatus) : Table := statuses.foldl collect t

/-- What is sent while these statuses are collected, and to which slots. -/
def sends (t : Table) : List ExitStatus → List (Nat × ExitStatus)
  | [] => []
  | status :: rest =>
    (t.waiter? status.pid).toList.map (·, status) ++ (t.collect status).sends rest

/-- What is sent to one slot. -/
def sendsTo (t : Table) (n : Nat) (statuses : List ExitStatus) : List ExitStatus :=
  ((t.sends statuses).filter (·.1 == n)).map Prod.snd

variable {t : Table} {status : ExitStatus} {statuses : List ExitStatus} {p : Pid} {n : Nat}

@[simp] theorem collectAll_nil (t : Table) : t.collectAll [] = t := rfl

@[simp] theorem collectAll_cons (t : Table) (status : ExitStatus) (statuses : List ExitStatus) :
    t.collectAll (status :: statuses) = (t.collect status).collectAll statuses := rfl

theorem collect_hold (t : Table) (holder : Option TaskId) (status : ExitStatus) :
    ({ t with holder }).collect status = { t.collect status with holder } := by
  cases h : t.waiter? status.pid with
  | none =>
    rw [collect_of_waiter?_eq_none h]
    exact collect_of_waiter?_eq_none h
  | some m =>
    rw [collect_of_waiter?_eq_some h]
    exact collect_of_waiter?_eq_some h

/-- Who has the lock is no matter to what is collected. -/
theorem collectAll_hold (t : Table) (holder : Option TaskId) (statuses : List ExitStatus) :
    ({ t with holder }).collectAll statuses = { t.collectAll statuses with holder } := by
  induction statuses generalizing t with
  | nil => rfl
  | cons status rest ih => simp [collect_hold, ih]

theorem holder_collectAll (t : Table) (statuses : List ExitStatus) :
    (t.collectAll statuses).holder = t.holder := by
  induction statuses generalizing t with
  | nil => rfl
  | cons status rest ih => simp [ih]

theorem waiters_collect (t : Table) (status : ExitStatus) :
    (t.collect status).waiters = t.waiters.filter (·.1 != status.pid) := by
  cases h : t.waiter? status.pid with
  | none =>
    rw [collect_of_waiter?_eq_none h, eq_comm, List.filter_eq_self]
    intro w hw
    have absent := List.lookup_eq_none_iff.1 h w hw
    rwa [bne, Bool.beq_comm]
  | some m =>
    rw [collect_of_waiter?_eq_some h]
    rfl

theorem waiters_collectAll (t : Table) (statuses : List ExitStatus) :
    (t.collectAll statuses).waiters =
      t.waiters.filter fun w => statuses.all (w.1 != ·.pid) := by
  induction statuses generalizing t with
  | nil => exact (List.filter_eq_self.2 fun _ _ => rfl).symm
  | cons status rest ih =>
    rw [collectAll_cons, ih, waiters_collect, List.filter_filter]
    apply List.filter_congr
    intro w _
    simp [Bool.and_comm]

theorem sends_cons (t : Table) (status : ExitStatus) (rest : List ExitStatus) (n : Nat) :
    t.sendsTo n (status :: rest) =
      (if t.waiter? status.pid = some n then [status] else []) ++
        (t.collect status).sendsTo n rest := by
  simp only [sendsTo, sends, List.filter_append, List.map_append]
  congr 1
  cases t.waiter? status.pid with
  | none => rfl
  | some m => by_cases hm : m = n <;> simp [hm]

/-- Slots change in no other way. -/
theorem getElem?_slots_collectAll (t : Table) (statuses : List ExitStatus) (n : Nat) :
    (t.collectAll statuses).slots[n]? =
      t.slots[n]?.map fun slot => (t.sendsTo n statuses).foldl (fun s x => s.fill x) slot := by
  induction statuses generalizing t with
  | nil => simp [sendsTo, sends]
  | cons status rest ih =>
    rw [collectAll_cons, ih, getElem?_slots_collect, sends_cons]
    split <;> simp [Function.comp_def]

/-- Each PID has one waiter at most, each waiter has a slot of its own, and nothing has been sent
to it so far. -/
structure IsMap (t : Table) : Prop where
  keyed : t.Keyed
  apart : ∀ p q n, t.waiter? p = some n → t.waiter? q = some n → p = q
  unsent : ∀ p n, t.waiter? p = some n → t.slots[n]? = some .waiting ∨ t.slots[n]? = some .unwanted

theorem IsMap.start : IsMap {} where
  keyed := .nil
  apart := nofun
  unsent := nofun

theorem IsMap.collect (h : t.IsMap) (status : ExitStatus) : (t.collect status).IsMap where
  keyed := h.keyed.collect
  apart p q n hp hq := by
    rw [waiter?_collect] at hp hq
    split at hp
    · cases hp
    · split at hq
      · cases hq
      · exact h.apart p q n hp hq
  unsent p n hp := by
    rw [waiter?_collect] at hp
    split at hp
    · cases hp
    · rename_i other
      have spared : t.waiter? status.pid ≠ some n :=
        fun mine => other (h.apart p status.pid n hp mine)
      rw [getElem?_slots_collect, if_neg spared]
      exact h.unsent p n hp

theorem IsMap.hold (h : t.IsMap) (holder : Option TaskId) : ({ t with holder }).IsMap :=
  ⟨h.keyed, h.apart, h.unsent⟩

theorem IsMap.displace (h : t.IsMap) (pid : Pid) : (t.displace pid).IsMap := by
  simp only [Table.displace]
  split
  · rename_i m displaced
    constructor
    · exact h.keyed.forget
    · intro p q n hp hq
      rw [waiter?_modifySlot, waiter?_forget] at hp hq
      split at hp <;> split at hq <;> first | cases hp | cases hq | exact h.apart p q n hp hq
    · intro p n hp
      rw [waiter?_modifySlot, waiter?_forget] at hp
      split at hp
      · cases hp
      · rename_i other
        have spared : m ≠ n := by
          rintro rfl
          exact other (h.apart p pid m hp displaced)
        simpa [spared] using h.unsent p n hp
  · exact h

theorem waiter?_displace : (t.displace p).waiter? p = none := by
  cases h : t.waiter? p with
  | none => simp [displace, h]
  | some n => simp [displace, h, waiter?_forget]

theorem register_eq (t : Table) (pid : Pid) : t.register pid = (t.displace pid).register pid := by
  rw [register_of_waiter?_eq_none waiter?_displace]
  rfl

theorem IsMap.register (h : t.IsMap) (pid : Pid) : (t.register pid).1.IsMap := by
  rw [register_eq]
  replace h := h.displace pid
  have free : (t.displace pid).waiter? pid = none := waiter?_displace
  have below (p : Pid) (n : Nat) (hp : (t.displace pid).waiter? p = some n) :
      n < (t.displace pid).slots.length := by
    cases h.unsent p n hp with
    | inl slot | inr slot => exact (List.getElem?_eq_some_iff.1 slot).1
  constructor
  · exact h.keyed.register free
  · intro p q n hp hq
    rw [register_of_waiter?_eq_none free, waiter?_cons] at hp hq
    split at hp <;> split at hq
    · simp_all
    · cases hp
      exact absurd (below q _ hq) (Nat.lt_irrefl _)
    · cases hq
      exact absurd (below p _ hp) (Nat.lt_irrefl _)
    · exact h.apart p q n hp hq
  · intro p n hp
    rw [register_of_waiter?_eq_none free, waiter?_cons] at hp
    rw [register_of_waiter?_eq_none free]
    split at hp
    · cases hp
      simp
    · have slot := h.unsent p n hp
      rwa [List.getElem?_append_left (below p n hp)]

theorem IsMap.drop (h : t.IsMap) (handle : Handle) : (t.drop handle).IsMap where
  keyed := h.keyed
  apart := h.apart
  unsent p n hp := by
    have slot := h.unsent p n hp
    rw [Table.drop, slots_modifySlot, List.getElem?_modify]
    cases slot with
    | inl slot | inr slot => rw [slot]; by_cases hn : handle.slot = n <;> simp [hn, Slot.disown]

theorem sendsTo_of_unawaited
    (unawaited : ∀ p, t.waiter? p = some n → p ∉ statuses.map ExitStatus.pid) :
    t.sendsTo n statuses = [] := by
  induction statuses generalizing t with
  | nil => rfl
  | cons status rest ih =>
    have here : t.waiter? status.pid ≠ some n := fun waits => unawaited _ waits (by simp)
    rw [sends_cons, if_neg here, List.nil_append]
    apply ih
    intro p waits
    rw [waiter?_collect] at waits
    split at waits
    · cases waits
    · have absent := unawaited p waits
      simp_all

/-- A waiter is sent the first status with its PID, and none after it. -/
theorem IsMap.sendsTo (h : t.IsMap) (waits : t.waiter? p = some n) :
    t.sendsTo n statuses = (statuses.find? (·.pid == p)).toList := by
  induction statuses generalizing t with
  | nil => rfl
  | cons status rest ih =>
    rw [sends_cons, List.find?_cons]
    by_cases same : status.pid = p
    · subst same
      have noMore : (t.collect status).sendsTo n rest = [] := by
        apply sendsTo_of_unawaited
        intro q waits'
        rw [waiter?_collect] at waits'
        split at waits'
        · cases waits'
        · rename_i other
          exact absurd (h.apart q status.pid n waits' waits) other
      simp [waits, noMore]
    · have other : t.waiter? status.pid ≠ some n :=
        fun mine => same (h.apart status.pid p n mine waits)
      have waits' : (t.collect status).waiter? p = some n := by
        rw [waiter?_collect, if_neg (Ne.symm same), waits]
      rw [if_neg other, ih (h.collect status) waits', beq_eq_false_iff_ne.2 same]
      rfl

/-- What has become of a table from which these statuses have been collected. -/
structure HandedOver (t : Table) (statuses : List ExitStatus) (t' : Table) : Prop where
  /-- Just these PIDs are waited for no more. -/
  waiters : t'.waiters = t.waiters.filter fun w => statuses.all (w.1 != ·.pid)
  /-- A waiter has been sent one status, the first with its PID, unless its receiver is gone. -/
  served : ∀ pid n status, t.waiter? pid = some n → statuses.find? (·.pid == pid) = some status →
    t.sendsTo n statuses = [status] ∧
    (t.slots[n]? = some .waiting ∧ t'.slots[n]? = some (.filled status) ∨
      t.slots[n]? = some .unwanted ∧ t'.slots[n]? = some .unwanted)
  /-- To all others nothing has been sent. -/
  untouched : ∀ n, (∀ pid, t.waiter? pid = some n → pid ∉ statuses.map ExitStatus.pid) →
    t.sendsTo n statuses = [] ∧ t'.slots[n]? = t.slots[n]?

theorem IsMap.handedOver (h : t.IsMap) (statuses : List ExitStatus) :
    HandedOver t statuses (t.collectAll statuses) where
  waiters := waiters_collectAll t statuses
  served pid n status waits first := by
    have sent : t.sendsTo n statuses = [status] := by
      rw [h.sendsTo waits, first]
      rfl
    refine ⟨sent, ?_⟩
    rw [getElem?_slots_collectAll, sent]
    rcases h.unsent pid n waits with slot | slot
    · exact .inl ⟨slot, by rw [slot]; rfl⟩
    · exact .inr ⟨slot, by rw [slot]; rfl⟩
  untouched n unawaited := by
    have unsent := sendsTo_of_unawaited unawaited
    refine ⟨unsent, ?_⟩
    rw [getElem?_slots_collectAll, unsent]
    simp

end PidOne.Table
