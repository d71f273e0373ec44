import PidOne.Table

/-!
# Waiters and slots

What each operation on a table does to the slot that waits for a PID, and to the slots.
-/

namespace PidOne

theorem getElem?_concat_eq_some {α : Type} {l : List α} {a b : α} {n : Nat} :
    (l ++ [a])[n]? = some b ↔ l[n]? = some b ∨ n = l.length ∧ b = a := by
  rw [List.getElem?_append, List.getElem?_singleton]
  grind

namespace Table

variable {t : Table} {pid p : Pid} {n : Nat} {f : Slot → Slot} {status : ExitStatus}

@[simp] theorem waiter?_modifySlot : (t.modifySlot n f).waiter? p = t.waiter? p := rfl

@[simp] theorem slots_modifySlot : (t.modifySlot n f).slots = t.slots.modify n f := rfl

@[simp] theorem modifySlot_id (t : Table) (n : Nat) : t.modifySlot n id = t := by
  simp [modifySlot]

@[simp] theorem slots_forget : (t.forget pid).slots = t.slots := rfl

theorem waiter?_forget :
    (t.forget pid).waiter? p = if p = pid then none else t.waiter? p := by
  simp only [waiter?, forget]
  induction t.waiters with
  | nil => simp
  | cons w ws ih =>
    by_cases hw : w.1 = pid <;> by_cases hp : p = w.1 <;> grind

/-- A PID that nobody waits for displaces nobody. -/
theorem register_of_waiter?_eq_none (h : t.waiter? pid = none) :
    t.register pid =
      ({ t with waiters := (pid, t.slots.length) :: t.waiters, slots := t.slots ++ [.waiting] },
        ⟨pid, t.slots.length⟩) := by
  simp [register, displace, h]

theorem waiter?_cons {slots : List Slot} :
    Table.waiter? { t with waiters := (pid, n) :: t.waiters, slots } p =
      if p = pid then some n else t.waiter? p := by
  by_cases hp : p = pid
  · simp [waiter?, hp]
  · simp [waiter?, List.lookup_cons, hp, beq_eq_false_iff_ne.2 hp]

theorem collect_of_waiter?_eq_none (h : t.waiter? status.pid = none) : t.collect status = t := by
  simp [collect, h]

theorem collect_of_waiter?_eq_some (h : t.waiter? status.pid = some n) :
    t.collect status = (t.forget status.pid).modifySlot n (.fill status) := by
  simp [collect, h]

@[simp] theorem holder_collect : (t.collect status).holder = t.holder := by
  simp only [collect]
  split <;> rfl

theorem holder_register (t : Table) (pid : Pid) : (t.register pid).1.holder = t.holder := by
  simp only [register, displace]
  split <;> rfl

theorem holder_close (t : Table) : t.close.holder = t.holder := by
  simp only [close]
  induction t.waiters generalizing t with
  | nil => rfl
  | cons w ws ih => exact ih _

theorem waiter?_collect :
    (t.collect status).waiter? p = if p = status.pid then none else t.waiter? p := by
  cases h : t.waiter? status.pid with
  | none => grind [collect_of_waiter?_eq_none h]
  | some n => rw [collect_of_waiter?_eq_some h, waiter?_modifySlot, waiter?_forget]

theorem getElem?_slots_collect : (t.collect status).slots[n]? =
    if t.waiter? status.pid = some n then t.slots[n]?.map (Slot.fill status) else t.slots[n]? := by
  cases h : t.waiter? status.pid with
  | none => simp [collect_of_waiter?_eq_none h]
  | some m =>
    rw [collect_of_waiter?_eq_some h, slots_modifySlot, slots_forget, List.getElem?_modify]
    by_cases hm : m = n <;> simp [hm]

theorem length_slots_collect : (t.collect status).slots.length = t.slots.length := by
  cases h : t.waiter? status.pid with
  | none => rw [collect_of_waiter?_eq_none h]
  | some n => simp [collect_of_waiter?_eq_some h]

theorem isTracked_iff : t.isTracked pid = true ↔ ∃ n, t.waiter? pid = some n := by
  simp only [isTracked, waiter?]
  induction t.waiters with
  | nil => simp
  | cons w ws ih =>
    obtain ⟨q, n⟩ := w
    by_cases hq : q = pid
    · simp [hq]
    · simpa [hq, List.lookup_cons, beq_eq_false_iff_ne.2 (Ne.symm hq)] using ih

theorem mem_waiters_of_waiter? (h : t.waiter? pid = some n) : (pid, n) ∈ t.waiters := by
  obtain ⟨before, after, split, _⟩ := List.lookup_eq_some_iff.1 h
  simp [split]

theorem waiters_eq_nil_iff : t.waiters = [] ↔ ∀ pid, t.waiter? pid = none := by
  constructor
  · intro h pid
    simp [waiter?, h]
  · intro h
    cases hw : t.waiters with
    | nil => rfl
    | cons w ws =>
      have first := h w.1
      simp [waiter?, hw] at first

/-- A PID has one waiter at most. -/
def Keyed (t : Table) : Prop := (t.waiters.map Prod.fst).Nodup

theorem Keyed.mem_iff (h : t.Keyed) : (pid, n) ∈ t.waiters ↔ t.waiter? pid = some n := by
  constructor
  · intro hn
    obtain ⟨before, after, split⟩ := List.append_of_mem hn
    refine List.lookup_eq_some_iff.2 ⟨before, after, split, fun w hw => ?_⟩
    rw [Keyed, split, List.map_append, List.nodup_append] at h
    have apart := h.2.2 w.1 (List.mem_map_of_mem hw) pid (by simp)
    simpa using Ne.symm apart
  · exact mem_waiters_of_waiter?

theorem Keyed.register (h : t.Keyed) (free : t.waiter? pid = none) : (t.register pid).1.Keyed := by
  rw [register_of_waiter?_eq_none free]
  refine List.nodup_cons.2 ⟨fun hp => ?_, h⟩
  obtain ⟨⟨q, n⟩, hn, rfl⟩ := List.mem_map.1 hp
  simp [h.mem_iff.1 hn] at free

theorem Keyed.forget (h : t.Keyed) : (t.forget pid).Keyed :=
  h.sublist (List.filter_sublist.map _)

theorem Keyed.collect (h : t.Keyed) : (t.collect status).Keyed := by
  cases hw : t.waiter? status.pid with
  | none => rwa [collect_of_waiter?_eq_none hw]
  | some n =>
    rw [collect_of_waiter?_eq_some hw]
    exact Keyed.forget h

end Table

end PidOne
