import PidOne.Proofs.Kernel
import PidOne.Proofs.Table.Waiters

/-!
# The ledger of a table

A record of the handles that a table has given out and of what has been collected through it. From
this record, and from whether the table is still there, follows what waiting on a handle answers.
-/

namespace PidOne

open Kernel

namespace Ledger

structure Ticket where
  handle : Handle
  child : ChildId
  /-- How much had been collected when the handle was made. -/
  since : Nat
  dropped : Bool := false

end Ledger

structure Ledger where
  tickets : List Ledger.Ticket := []
  collected : List (ChildId × ExitStatus) := []

namespace Ledger

def issue (l : Ledger) (handle : Handle) (child : ChildId) : Ledger :=
  { l with tickets := l.tickets ++ [⟨handle, child, l.collected.length, false⟩] }

def collect (l : Ledger) (child : ChildId) (status : ExitStatus) : Ledger :=
  { l with collected := l.collected ++ [(child, status)] }

def drop (l : Ledger) (slot : Nat) : Ledger :=
  { l with tickets := l.tickets.modify slot fun ticket => { ticket with dropped := true } }

/-- The first status with the handle's PID that has been collected since the handle was made. -/
def served? (l : Ledger) (ticket : Ticket) : Option ExitStatus :=
  ((l.collected.drop ticket.since).find? (·.2.pid == ticket.handle.pid)).map Prod.snd

variable {l : Ledger} {ticket : Ticket} {child : ChildId} {status : ExitStatus}

theorem served?_collect (h : ticket.since ≤ l.collected.length) :
    (l.collect child status).served? ticket = (l.served? ticket).or
      (if status.pid = ticket.handle.pid then some status else none) := by
  rw [served?, collect, List.drop_append_of_le_length h, List.find?_append, served?]
  cases (l.collected.drop ticket.since).find? (·.2.pid == ticket.handle.pid) with
  | some x => rfl
  | none => by_cases same : status.pid = ticket.handle.pid <;> simp [same]

theorem served?_new (h : l.collected.length ≤ ticket.since) : l.served? ticket = none := by
  rw [served?, List.drop_of_length_le h]
  rfl

end Ledger

/-- What waiting answers, when something has been collected or when the table is gone. -/
def Slot.standing : Option ExitStatus → Bool → Slot
  | some status, _ => .filled status
  | none, true => .waiting
  | none, false => .lost

namespace Slot

variable {status : ExitStatus} {alive : Bool} {pid : Pid}

theorem answer?_standing_some : (standing (some status) alive).answer? pid = some (.ok status) :=
  rfl

theorem answer?_standing_waiting : (standing none true).answer? pid = none := rfl

theorem answer?_standing_lost :
    (standing none false).answer? pid = some (.error (.exitStatusLost pid)) := rfl

end Slot

namespace Ledger

structure Agrees (l : Ledger) (t : Table) (alive : Bool) : Prop where
  keyed : t.Keyed
  length : t.slots.length = l.tickets.length
  number : ∀ (k : Nat) ticket, l.tickets[k]? = some ticket → ticket.handle.slot = k
  since : ∀ (k : Nat) ticket, l.tickets[k]? = some ticket → ticket.since ≤ l.collected.length
  slots : ∀ (k : Nat) ticket, l.tickets[k]? = some ticket → ticket.dropped = false →
    t.slots[k]? = some (.standing (l.served? ticket) alive)
  waits : ∀ pid k, t.waiter? pid = some k ↔ ∃ ticket, l.tickets[k]? = some ticket ∧
    ticket.handle.pid = pid ∧ l.served? ticket = none ∧ alive = true

variable {l : Ledger} {t t' : Table} {alive : Bool} {pid : Pid} {child : ChildId}
variable {status : ExitStatus} {ticket : Ticket} {k : Nat}

theorem Agrees.start : Agrees {} {} alive := by
  constructor <;> simp [Table.Keyed, Table.waiter?]

/-- Who has the lock is no matter. -/
theorem Agrees.same (h : l.Agrees t alive) (waiters : t'.waiters = t.waiters)
    (slots : t'.slots = t.slots) : l.Agrees t' alive where
  keyed := by
    rw [Table.Keyed, waiters]
    exact h.keyed
  length := by rw [slots, h.length]
  number := h.number
  since := h.since
  slots := by rw [slots]; exact h.slots
  waits := by
    intro pid k
    rw [Table.waiter?, waiters]
    exact h.waits pid k

theorem Agrees.register (h : l.Agrees t true) (free : t.waiter? pid = none) (child : ChildId) :
    (l.issue (t.register pid).2 child).Agrees (t.register pid).1 true := by
  have keyed := h.keyed.register free
  rw [Table.register_of_waiter?_eq_none free] at keyed ⊢
  have new : l.served? ⟨⟨pid, t.slots.length⟩, child, l.collected.length, false⟩ = none :=
    served?_new Nat.le.refl
  constructor
  · exact keyed
  · simp [issue, h.length]
  · intro k ticket hk
    rcases getElem?_concat_eq_some.1 hk with hk | ⟨rfl, rfl⟩
    · exact h.number k ticket hk
    · exact h.length
  · intro k ticket hk
    rcases getElem?_concat_eq_some.1 hk with hk | ⟨rfl, rfl⟩
    · exact h.since k ticket hk
    · exact Nat.le.refl
  · intro k ticket hk kept
    rcases getElem?_concat_eq_some.1 hk with hk | ⟨rfl, rfl⟩
    · exact getElem?_concat_eq_some.2 (.inl (h.slots k ticket hk kept))
    · exact getElem?_concat_eq_some.2 (.inr ⟨h.length.symm, congrArg (Slot.standing · true) new⟩)
  · intro p k
    rw [Table.waiter?_cons]
    by_cases hp : p = pid
    · subst hp
      rw [if_pos rfl]
      constructor
      · rintro ⟨⟩
        exact ⟨_, getElem?_concat_eq_some.2 (.inr ⟨h.length, rfl⟩), rfl, new, rfl⟩
      · rintro ⟨ticket, hk, hpid, unserved, _⟩
        rcases getElem?_concat_eq_some.1 hk with hk | ⟨rfl, rfl⟩
        · have waits := (h.waits p k).2 ⟨ticket, hk, hpid, unserved, rfl⟩
          exact nomatch free.symm.trans waits
        · rw [h.length]
    · rw [if_neg hp, h.waits]
      constructor
      · rintro ⟨ticket, hk, rest⟩
        exact ⟨ticket, getElem?_concat_eq_some.2 (.inl hk), rest⟩
      · rintro ⟨ticket, hk, hpid, rest⟩
        rcases getElem?_concat_eq_some.1 hk with hk | ⟨rfl, rfl⟩
        · exact ⟨ticket, hk, hpid, rest⟩
        · exact absurd hpid.symm hp

theorem Agrees.unserved (h : l.Agrees t true) (hk : l.tickets[k]? = some ticket)
    (unserved : l.served? ticket = none) : t.waiter? ticket.handle.pid = some k :=
  (h.waits _ _).2 ⟨ticket, hk, rfl, unserved, rfl⟩

theorem Agrees.collect (h : l.Agrees t true) (child : ChildId) (status : ExitStatus) :
    (l.collect child status).Agrees (t.collect status) true where
  keyed := h.keyed.collect
  length := Table.length_slots_collect.trans h.length
  number := h.number
  since k ticket hk := by
    have since := h.since k ticket hk
    simp only [Ledger.collect, List.length_append]
    omega
  slots k ticket hk kept := by
    have slot := h.slots k ticket hk kept
    rw [served?_collect (h.since k ticket hk), Table.getElem?_slots_collect, slot]
    cases served : l.served? ticket with
    | some s => simp [Slot.standing, Slot.fill]
    | none =>
      have waits := h.unserved hk served
      by_cases same : status.pid = ticket.handle.pid
      · simp [same, waits, Slot.standing, Slot.fill]
      · have other : t.waiter? status.pid ≠ some k := by
          intro waits'
          obtain ⟨ticket', hk', hpid, _⟩ := (h.waits _ _).1 waits'
          cases hk.symm.trans hk'
          exact same hpid.symm
        simp [same, other, Slot.standing]
  waits pid k := by
    rw [Table.waiter?_collect]
    constructor
    · intro waits
      split at waits
      · cases waits
      · obtain ⟨ticket, hk, rfl, unserved, _⟩ := (h.waits _ _).1 waits
        refine ⟨ticket, hk, rfl, ?_, rfl⟩
        rw [served?_collect (h.since k ticket hk), unserved, if_neg (Ne.symm ‹_›)]
        rfl
    · rintro ⟨ticket, hk, rfl, unserved, _⟩
      rw [served?_collect (h.since k ticket hk), Option.or_eq_none_iff] at unserved
      obtain ⟨unserved, other⟩ := unserved
      rw [if_neg]
      · exact h.unserved hk unserved
      · intro same
        simp [same] at other

theorem getElem?_drop {slot : Nat} : (l.drop slot).tickets[k]? = l.tickets[k]?.map fun ticket =>
    if slot = k then { ticket with dropped := true } else ticket := by
  rw [Ledger.drop, List.getElem?_modify]
  by_cases same : slot = k <;> simp [same]

theorem Agrees.drop (h : l.Agrees t alive) (slot : Nat) :
    (l.drop slot).Agrees (t.modifySlot slot .disown) alive where
  keyed := h.keyed
  length := by simp [Ledger.drop, h.length]
  number k ticket hk := by
    obtain ⟨old, hold, rfl⟩ := Option.map_eq_some_iff.1 (getElem?_drop.symm.trans hk)
    rw [← h.number k old hold]
    split <;> rfl
  since k ticket hk := by
    obtain ⟨old, hold, rfl⟩ := Option.map_eq_some_iff.1 (getElem?_drop.symm.trans hk)
    have since := h.since k old hold
    split <;> exact since
  slots k ticket hk kept := by
    obtain ⟨old, hold, rfl⟩ := Option.map_eq_some_iff.1 (getElem?_drop.symm.trans hk)
    by_cases same : slot = k
    · simp [same] at kept
    · rw [if_neg same] at kept ⊢
      rw [Table.slots_modifySlot, List.getElem?_modify_ne _ _ same]
      exact h.slots k old hold kept
  waits pid k := by
    rw [Table.waiter?_modifySlot, h.waits]
    constructor
    · rintro ⟨old, hold, hpid, unserved, rfl⟩
      refine ⟨_, getElem?_drop.trans (by rw [hold]; rfl), ?_, ?_, rfl⟩
      · split <;> exact hpid
      · split <;> exact unserved
    · rintro ⟨ticket, hk, hpid, unserved, rfl⟩
      obtain ⟨old, hold, rfl⟩ := Option.map_eq_some_iff.1 (getElem?_drop.symm.trans hk)
      refine ⟨old, hold, ?_, ?_, rfl⟩
      · split at hpid <;> exact hpid
      · split at unserved <;> exact unserved

theorem getElem?_slots_abandon (waiters : List (Pid × Nat)) :
    (waiters.foldl (fun t w => t.modifySlot w.2 .abandon) t).slots[k]? =
      if k ∈ waiters.map Prod.snd then t.slots[k]?.map Slot.abandon else t.slots[k]? := by
  induction waiters generalizing t with
  | nil => rfl
  | cons w waiters ih =>
    have twice : Slot.abandon ∘ Slot.abandon = Slot.abandon := by
      funext slot
      cases slot <;> rfl
    rw [List.foldl_cons, ih, Table.slots_modifySlot, List.getElem?_modify, List.map_cons]
    by_cases first : w.2 = k <;> by_cases later : k ∈ waiters.map Prod.snd <;>
      simp [first, later, twice, Ne.symm]

theorem length_slots_abandon (waiters : List (Pid × Nat)) :
    (waiters.foldl (fun t w => t.modifySlot w.2 .abandon) t).slots.length = t.slots.length := by
  induction waiters generalizing t with
  | nil => rfl
  | cons w waiters ih => rw [List.foldl_cons, ih, Table.slots_modifySlot, List.length_modify]

theorem Agrees.close (h : l.Agrees t true) : l.Agrees t.close false where
  keyed := List.nodup_nil
  length := (length_slots_abandon t.waiters).trans h.length
  number := h.number
  since := h.since
  slots k ticket hk kept := by
    have slot := h.slots k ticket hk kept
    refine (getElem?_slots_abandon t.waiters).trans ?_
    rw [slot]
    cases served : l.served? ticket with
    | some s => simp [Slot.standing, Slot.abandon]
    | none =>
      have waits := Table.mem_waiters_of_waiter? (h.unserved hk served)
      rw [if_pos (List.mem_map_of_mem waits)]
      rfl
  waits pid k := by
    simp [Table.close, Table.waiter?]

/-- What waiting answers, in terms of what has been collected and of whether the table is there. -/
theorem Agrees.poll (h : l.Agrees t alive) (hk : l.tickets[k]? = some ticket)
    (kept : ticket.dropped = false) :
    t.poll ticket.handle = (Slot.standing (l.served? ticket) alive).answer? ticket.handle.pid := by
  rw [Table.poll, h.number k ticket hk, h.slots k ticket hk kept]
  rfl

end Ledger

end PidOne
