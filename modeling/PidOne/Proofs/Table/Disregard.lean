import PidOne.Proofs.Table.Progress
import PidOne.Proofs.Table.Waiters

/-!
# Slots out of sight

A table of which some slots are disregarded. Nothing that happens at a table depends on what is in
them: the waiters, the progress of starts and passes and all other slots come out the same.
-/

namespace PidOne

namespace Table

/-- The table as if nobody wanted what comes into these slots. -/
def disregard (D : Nat → Bool) (t : Table) : Table :=
  { t with slots := t.slots.mapIdx fun n slot => if D n then .unwanted else slot }

variable {D : Nat → Bool} {t u : Table} {pid : Pid} {n : Nat} {f : Slot → Slot}
variable {status : ExitStatus} {handle : Handle}

@[simp] theorem holder_disregard : (t.disregard D).holder = t.holder := rfl

@[simp] theorem waiters_disregard : (t.disregard D).waiters = t.waiters := rfl

@[simp] theorem waiter?_disregard : (t.disregard D).waiter? pid = t.waiter? pid := rfl

@[simp] theorem length_slots_disregard : (t.disregard D).slots.length = t.slots.length := by
  simp [disregard]

theorem getElem?_slots_disregard : (t.disregard D).slots[n]? =
    t.slots[n]?.map fun slot => if D n then .unwanted else slot := by
  simp [disregard]

/-- Two tables look alike when they have the same waiters and the same slots in sight. -/
theorem disregard_eq_iff : u.disregard D = t.disregard D ↔ u.holder = t.holder ∧
    u.waiters = t.waiters ∧ u.slots.length = t.slots.length ∧
      ∀ n, D n = false → u.slots[n]? = t.slots[n]? := by
  constructor
  · intro h
    refine ⟨congrArg (·.holder) h, congrArg (·.waiters) h, ?_, fun n hn => ?_⟩
    · simpa using congrArg (·.slots.length) h
    · simpa [getElem?_slots_disregard, hn] using congrArg (·.slots[n]?) h
  · rintro ⟨holder, waiters, length, slots⟩
    have same : (u.disregard D).slots = (t.disregard D).slots := by
      apply List.ext_getElem?
      intro n
      rw [getElem?_slots_disregard, getElem?_slots_disregard]
      cases hn : D n with
      | false => rw [slots n hn]
      | true =>
        by_cases there : n < t.slots.length
        · simp [there, length]
        · simp [there, length]
    cases u
    cases t
    simp_all [disregard]

theorem disregard_modifySlot (unwanted : f .unwanted = .unwanted) :
    (t.modifySlot n f).disregard D = (t.disregard D).modifySlot n f := by
  have same : ((t.modifySlot n f).disregard D).slots = ((t.disregard D).modifySlot n f).slots := by
    apply List.ext_getElem?
    intro m
    rw [getElem?_slots_disregard, slots_modifySlot, slots_modifySlot, List.getElem?_modify,
      List.getElem?_modify, getElem?_slots_disregard]
    cases t.slots[m]? <;> grind
  exact congrArg (fun slots => { t with slots }) same

theorem disregard_modifySlot_of (hn : D n = true) :
    (t.modifySlot n f).disregard D = t.disregard D := by
  rw [disregard_eq_iff]
  refine ⟨rfl, rfl, by simp, fun m hm => ?_⟩
  have apart : n ≠ m := by
    rintro rfl
    simp [hn] at hm
  simp [apart]

theorem disregard_forget : (t.forget pid).disregard D = (t.disregard D).forget pid := rfl

theorem disregard_collect : (t.collect status).disregard D = (t.disregard D).collect status := by
  simp only [collect, waiter?_disregard]
  split
  · rw [disregard_modifySlot rfl, disregard_forget]
  · rfl

theorem disregard_displace : (t.displace pid).disregard D = (t.disregard D).displace pid := by
  simp only [displace, waiter?_disregard]
  split
  · rw [disregard_modifySlot rfl, disregard_forget]
  · rfl

theorem disregard_drop : (t.drop handle).disregard D = (t.disregard D).drop handle :=
  disregard_modifySlot rfl

theorem disregard_drop_of (hn : D handle.slot = true) :
    (t.drop handle).disregard D = t.disregard D := disregard_modifySlot_of hn

theorem disregard_hold (same : u.disregard D = t.disregard D) (holder : Option TaskId) :
    Table.disregard D { u with holder } = Table.disregard D { t with holder } :=
  congrArg (fun t => { t with holder }) same

/-- A new handle has the same number whatever is in the slots out of sight. -/
theorem disregard_register (same : u.disregard D = t.disregard D) (pid : Pid) :
    (u.register pid).2 = (t.register pid).2 ∧
      (u.register pid).1.disregard D = (t.register pid).1.disregard D := by
  have displaced : (u.displace pid).disregard D = (t.displace pid).disregard D := by
    rw [disregard_displace, disregard_displace, same]
  obtain ⟨holder, waiters, length, slots⟩ := disregard_eq_iff.1 displaced
  simp only [register, disregard_eq_iff]
  refine ⟨by rw [length], holder, by rw [waiters, length], by simp [length], fun n hn => ?_⟩
  rw [List.getElem?_append, List.getElem?_append, length, slots n hn]

theorem disregard_close : t.close.disregard D = (t.disregard D).close := by
  have abandoned (ws : List (Pid × Nat)) :
      (ws.foldl (fun t w => t.modifySlot w.2 .abandon) t).disregard D =
        ws.foldl (fun t w => t.modifySlot w.2 .abandon) (t.disregard D) := by
    induction ws generalizing t with
    | nil => rfl
    | cons w ws ih =>
      rw [List.foldl_cons, List.foldl_cons, ih, disregard_modifySlot rfl]
  simp only [close, waiters_disregard, ← abandoned]
  rfl

theorem poll_disregard (hn : D handle.slot = false) :
    (t.disregard D).poll handle = t.poll handle := by
  simp [poll, getElem?_slots_disregard, hn]

theorem poll_congr (same : u.disregard D = t.disregard D) (hn : D handle.slot = false) :
    u.poll handle = t.poll handle := by
  rw [← poll_disregard hn, same, poll_disregard hn]

theorem close_congr (same : u.disregard D = t.disregard D) :
    u.close.disregard D = t.close.disregard D := by
  rw [disregard_close, disregard_close, same]

end Table

variable {D : Nat → Bool} {t t' u : Table} {task : TaskId}

/-- A start goes on in the same way beside slots out of sight, whatever is in them. -/
theorem Spawning.Moves.disregard {p p' : Spawning} {e : Spawning.Event}
    (h : Spawning.Moves task t p e p' t') (same : u.disregard D = t.disregard D) :
    ∃ u', Spawning.Moves task u p e p' u' ∧ u'.disregard D = t'.disregard D := by
  have holder : u.holder = t.holder := (Table.disregard_eq_iff.1 same).1
  cases h with
  | lock free => exact ⟨_, .lock (holder.trans free), Table.disregard_hold same _⟩
  | fork => exact ⟨_, .fork, same⟩
  | refuse => exact ⟨_, .refuse, same⟩
  | exec => exact ⟨_, .exec, same⟩
  | fail => exact ⟨_, .fail, same⟩
  | discard => exact ⟨_, .discard, same⟩
  | @register pid =>
    obtain ⟨handle, registered⟩ := Table.disregard_register same pid
    rw [← handle]
    exact ⟨_, .register, registered⟩
  | unlock held => exact ⟨_, .unlock (holder.trans held), Table.disregard_hold same _⟩

theorem Pass.Moves.disregard {p p' : Pass} {e : Pass.Event} (h : Pass.Moves task t p e p' t')
    (same : u.disregard D = t.disregard D) :
    ∃ u', Pass.Moves task u p e p' u' ∧ u'.disregard D = t'.disregard D := by
  have holder : u.holder = t.holder := (Table.disregard_eq_iff.1 same).1
  cases h with
  | lock free => exact ⟨_, .lock (holder.trans free), Table.disregard_hold same _⟩
  | collect reported =>
    refine ⟨_, .collect reported, ?_⟩
    rw [Table.disregard_collect, Table.disregard_collect, same]
  | skip nothing goesOn => exact ⟨_, .skip nothing goesOn, same⟩
  | close closes => exact ⟨_, .close closes, same⟩
  | unlock held => exact ⟨_, .unlock (holder.trans held), Table.disregard_hold same _⟩

end PidOne
