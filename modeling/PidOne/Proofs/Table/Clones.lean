import PidOne.Table.Registry

/-!
# Clones of tables

A registry is a table and a number of clones for each index. What each operation on a registry does
to either.
-/

namespace PidOne.Registry

def count (r : Registry) (n : Nat) : Nat := (r.tables[n]?.map (·.2)).getD 0

variable {r : Registry} {n m : Nat} {t : Table}

theorem lt_of_count (h : 0 < r.count n) : n < r.tables.length := by
  apply Nat.lt_of_not_le
  intro past
  simp [count, List.getElem?_eq_none past] at h

theorem exists_of_count (h : 0 < r.count n) : ∃ t, r.tables[n]? = some (t, r.count n) := by
  cases there : r.tables[n]? with
  | none => simp [count, there] at h
  | some x => exact ⟨x.1, by simp [count, there]⟩

theorem get_new : r.get r.create.2 = {} := by
  simp [create, get]

theorem get_create : r.create.1.get m = r.get m := by
  by_cases old : m < r.tables.length
  · simp [create, get, List.getElem?_append_left old]
  · have before := List.getElem?_eq_none (Nat.not_lt.1 old)
    rw [get, create, List.getElem?_append_right (Nat.not_lt.1 old), get, before]
    cases m - r.tables.length <;> rfl

theorem count_create :
    r.create.1.count m = r.count m + if r.create.2 = m then 1 else 0 := by
  rcases Nat.lt_trichotomy m r.tables.length with old | rfl | new
  · simp [create, count, List.getElem?_append_left old, Nat.ne_of_gt old]
  · simp [create, count]
  · have before : r.tables[m]? = none := List.getElem?_eq_none (Nat.le_of_lt new)
    have after : (r.tables ++ [(({} : Table), 1)])[m]? = none := by
      apply List.getElem?_eq_none
      simpa using Nat.succ_le_of_lt new
    simp [create, count, before, after, Nat.ne_of_lt new]

theorem get_clone : (r.clone n).get m = r.get m := by
  rw [get, clone, List.getElem?_modify, get]
  by_cases same : n = m <;> cases r.tables[m]? <;> simp [same]

theorem count_clone (h : 0 < r.count n) :
    (r.clone n).count m = r.count m + if n = m then 1 else 0 := by
  rw [count, clone, List.getElem?_modify]
  by_cases same : n = m
  · subst same
    obtain ⟨t, there⟩ := exists_of_count h
    simp [there]
  · simp [same, count]

theorem get_set (h : n < r.tables.length) :
    (r.set n t).get m = if m = n then t else r.get m := by
  rw [get, set, List.getElem?_modify]
  by_cases same : n = m
  · subst same
    simp [h]
  · simp [same, Ne.symm same, get]

theorem set_of_le (h : r.tables.length ≤ n) : r.set n t = r := by
  simp [set, List.modify_eq_self h]

theorem count_set : (r.set n t).count m = r.count m := by
  rw [count, set, List.getElem?_modify, count]
  by_cases same : n = m <;> cases r.tables[m]? <;> simp [same]

theorem get_release_set (h : 0 < r.count n) : ((r.set n t).release n).get m =
    if m = n then if r.count n = 1 then t.close else t else r.get m := by
  rw [get, release, set, List.getElem?_modify, List.getElem?_modify]
  by_cases same : n = m
  · subst same
    obtain ⟨t, there⟩ := exists_of_count h
    by_cases last : r.count n = 1
    · simp [there, last]
    · simp [there, last, show ¬r.count n ≤ 1 by omega]
  · simp [same, Ne.symm same, get]

theorem count_release_set (h : 0 < r.count n) :
    ((r.set n t).release n).count m + (if n = m then 1 else 0) = r.count m := by
  rw [count, release, set, List.getElem?_modify, List.getElem?_modify]
  by_cases same : n = m
  · subst same
    obtain ⟨t, there⟩ := exists_of_count h
    by_cases last : r.count n ≤ 1
    · simp [there, last]
      omega
    · simp [there, last]
      omega
  · simp [same, count]

theorem length_create : r.create.1.tables.length = r.tables.length + 1 := by
  simp [create]

theorem length_clone : (r.clone n).tables.length = r.tables.length := by
  simp [clone]

theorem length_set : (r.set n t).tables.length = r.tables.length := by
  simp [set]

theorem length_release_set : ((r.set n t).release n).tables.length = r.tables.length := by
  simp [release, set]

end PidOne.Registry
