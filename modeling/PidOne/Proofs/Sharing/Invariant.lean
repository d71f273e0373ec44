import Mathlib.Data.List.Forall2
import PidOne.Proofs.Sharing.Agreement
import PidOne.Proofs.Table.Work

/-!
# The invariant of a shared table

Only the task that holds the lock is inside. What a start has done so far can be read off the
children and the handles, and what a pass has collected off the children.
-/

namespace PidOne

open Kernel

def Pass.statuses : Pass → List ExitStatus
  | .queued => []
  | .collecting statuses | .leaving statuses | .done statuses => statuses

namespace Shared

def Task.isInside : Task → Bool
  | .idle => false
  | .starting progress _ => progress.isInside
  | .reaping pass _ => pass.isInside

def Task.collected : Task → List ChildId
  | .reaping _ collected => collected
  | _ => []

/-- A child that has been forked, for whose PID nobody waits yet. -/
def Unregistered (s : Shared) (i : ChildId) (pid : Pid) : Prop :=
  ∃ c, s.children i = some c ∧ c.own = true ∧ c.pid = pid ∧ c.life.isOver = false ∧
    ∀ ticket ∈ s.tickets, ticket.child ≠ i

def Discarded (s : Shared) (i : ChildId) : Prop :=
  ∃ c, s.children i = some c ∧ c.life = .discarded

/-- Collecting this child has given this status. -/
def Yields (s : Shared) (i : ChildId) (status : ExitStatus) : Prop :=
  ∃ c e, s.children i = some c ∧ c.life = .collected e ∧ e.status c.pid = status

def FitsStart (s : Shared) (child : Option ChildId) : Spawning → Prop
  | .queued | .locked => child = none
  | .forked pid | .executing pid => ∃ i, child = some i ∧ s.Unregistered i pid
  | .failed pid cause =>
    (∃ number, cause = .errno number) ∧ ∃ i, child = some i ∧ s.Unregistered i pid
  | .leaving (.ok handle) =>
    ∃ i, child = some i ∧ s.tickets[handle.slot]? = some ⟨handle, i, .issuing⟩
  | .done (.ok handle) => ∃ i custody, child = some i ∧ custody ≠ .issuing ∧
    s.tickets[handle.slot]? = some ⟨handle, i, custody⟩
  | .leaving (.error _) | .done (.error _) => ∀ i, child = some i → s.Discarded i

def Fits (s : Shared) : Task → Prop
  | .idle => True
  | .starting progress child => s.FitsStart child progress
  | .reaping pass collected =>
    collected.Nodup ∧ List.Forall₂ s.Yields collected pass.statuses

structure Inv (s : Shared) : Prop where
  exclusive : ∀ task, (s.tasks task).isInside = true ↔ s.table.holder = some task
  distinct : s.children.Distinct
  agree : Agree s.table s.children s.tickets
  fits : ∀ task, s.Fits (s.tasks task)
  once : ∀ a b i, i ∈ (s.tasks a).collected → i ∈ (s.tasks b).collected → a = b

theorem Inv.start : Inv {} where
  exclusive := by simp [Task.isInside]
  distinct _ _ _ _ h := nomatch h
  agree := ⟨rfl, by simp, by simp [Table.waiter?], by simp⟩
  fits _ := trivial
  once _ _ _ h := nomatch h

variable {s s' : Shared} {task other : TaskId} {e : Event}

theorem Inv.fits_start (h : s.Inv) {progress : Spawning} {child : Option ChildId}
    (busy : s.tasks task = .starting progress child) : s.FitsStart child progress := by
  have fits := h.fits task
  rwa [busy] at fits

theorem Inv.fits_pass (h : s.Inv) {pass : Pass} {ids : List ChildId}
    (busy : s.tasks task = .reaping pass ids) :
    ids.Nodup ∧ List.Forall₂ s.Yields ids pass.statuses := by
  have fits := h.fits task
  rwa [busy] at fits

theorem Inv.mutual_exclusion (h : s.Inv) (ha : (s.tasks task).isInside = true)
    (hb : (s.tasks other).isInside = true) : task = other :=
  Option.some.inj (((h.exclusive task).1 ha).symm.trans ((h.exclusive other).1 hb))

/-- Each handle still belongs to the same child, and one that has been given out stays out. -/
def Given (tickets tickets' : List Ticket) : Prop :=
  ∀ (n : Nat) ticket, tickets[n]? = some ticket →
    ∃ custody, tickets'[n]? = some (ticket.pass custody) ∧
      (ticket.custody ≠ .issuing → custody ≠ .issuing)

theorem Given.refl (tickets : List Ticket) : Given tickets tickets :=
  fun _ ticket hn => ⟨ticket.custody, hn, id⟩

theorem Given.modify (tickets : List Ticket) (m : Nat) {custody : Custody}
    (h : custody ≠ .issuing) : Given tickets (tickets.modify m (.pass custody)) := by
  intro n ticket hn
  rw [List.getElem?_modify, hn]
  by_cases hm : m = n
  · exact ⟨custody, by simp [hm], fun _ => h⟩
  · exact ⟨ticket.custody, by simp [hm, Ticket.pass], id⟩

theorem Given.issue (tickets : List Ticket) (event : Spawning.Event) (progress : Spawning)
    (child : Option ChildId) : Given tickets (issue tickets event progress child) := by
  unfold Shared.issue
  split
  · exact fun n ticket hn => ⟨ticket.custody, getElem?_concat_eq_some.2 (.inl hn), id⟩
  · exact .modify _ _ (by simp)
  · exact .refl _

/-- What no step changes: the children that the kernel has forgotten, and whose the handles are. -/
structure Persists (s s' : Shared) : Prop where
  past : ∀ i c, s.children i = some c → c.life.isOver = true → s'.children i = some c
  given : Given s.tickets s'.tickets

/-- What is changed by the holder of the lock only. -/
structure Respects (s s' : Shared) : Prop extends Persists s s' where
  kept : ∀ i c, s.children i = some c → c.life.isOver = false →
    ∃ life, s'.children i = some { c with life } ∧ life.isOver = false
  nobodyNew : ∀ ticket ∈ s'.tickets, ∃ old ∈ s.tickets, old.child = ticket.child
  issuing : ∀ (n : Nat) ticket, s.tickets[n]? = some ticket → ticket.custody = .issuing →
    s'.tickets[n]? = some ticket

theorem Yields.persists {i : ChildId} {status : ExitStatus} (h : s.Yields i status)
    (hs : Persists s s') : s'.Yields i status := by
  obtain ⟨c, e, hc, hlife, rfl⟩ := h
  exact ⟨c, e, hs.past i c hc (by simp [hlife, Life.isOver]), hlife, rfl⟩

theorem Discarded.persists {i : ChildId} (h : s.Discarded i) (hs : Persists s s') :
    s'.Discarded i := by
  obtain ⟨c, hc, hlife⟩ := h
  exact ⟨c, hs.past i c hc (by simp [hlife, Life.isOver]), hlife⟩

theorem Unregistered.respects {i : ChildId} {pid : Pid} (h : s.Unregistered i pid)
    (hs : Respects s s') : s'.Unregistered i pid := by
  obtain ⟨c, hc, own, hpid, kept, none⟩ := h
  obtain ⟨life, hlife, kept'⟩ := hs.kept i c hc kept
  refine ⟨_, hlife, own, hpid, kept', fun ticket hticket => ?_⟩
  obtain ⟨old, hold, hchild⟩ := hs.nobodyNew ticket hticket
  exact hchild ▸ none old hold

theorem Fits.persists {work : Task} (h : s.Fits work) (outside : work.isInside = false)
    (hs : Persists s s') : s'.Fits work := by
  cases work with
  | idle => trivial
  | reaping pass ids => exact ⟨h.1, h.2.imp fun _ _ hy => hy.persists hs⟩
  | starting progress child =>
    cases progress with
    | queued => exact h
    | done answer =>
      cases answer with
      | error cause => exact fun i hi => (h i hi).persists hs
      | ok handle =>
        obtain ⟨i, custody, hchild, hcustody, hn⟩ := h
        obtain ⟨custody', hn', given⟩ := hs.given _ _ hn
        exact ⟨i, custody', hchild, given hcustody, hn'⟩
    | _ => cases outside

theorem Fits.respects {work : Task} (h : s.Fits work) (hs : Respects s s') : s'.Fits work := by
  cases work with
  | idle => trivial
  | reaping pass ids => exact ⟨h.1, h.2.imp fun _ _ hy => hy.persists hs.toPersists⟩
  | starting progress child =>
    cases progress with
    | queued => exact h.persists rfl hs.toPersists
    | locked => exact h
    | forked pid | executing pid =>
      obtain ⟨i, hi, hu⟩ := h
      exact ⟨i, hi, hu.respects hs⟩
    | failed pid cause =>
      obtain ⟨hcause, i, hi, hu⟩ := h
      exact ⟨hcause, i, hi, hu.respects hs⟩
    | leaving answer =>
      cases answer with
      | ok handle =>
        obtain ⟨i, hi, hn⟩ := h
        exact ⟨i, hi, hs.issuing _ _ hn rfl⟩
      | error cause => exact fun i hi => (h i hi).persists hs.toPersists
    | done answer => exact h.persists rfl hs.toPersists

@[simp] theorem tasks_assign_self (s : Shared) (task : TaskId) (work : Task) :
    (s.assign task work).tasks task = work := Function.update_self ..

theorem tasks_assign_of_ne (s : Shared) (h : other ≠ task) (work : Task) :
    (s.assign task work).tasks other = s.tasks other := Function.update_of_ne h ..

theorem Step.persists (h : Step s e s') : Persists s s' := by
  cases h with
  | begin => exact ⟨fun _ _ h _ => h, .refl _⟩
  | spawn _ _ kernel => exact ⟨fun _ _ => kernel.past, Given.issue _ _ _ _⟩
  | pass _ _ kernel => exact ⟨fun _ _ => kernel.past, .refl _⟩
  | kernel changes => exact ⟨fun _ _ => changes.past, .refl _⟩
  | receive => exact ⟨fun _ _ h _ => h, .modify _ _ (by simp)⟩
  | drop => exact ⟨fun _ _ h _ => h, .modify _ _ (by simp)⟩

/-- Whoever has no need of the lock leaves alone what its holder is about. -/
theorem Respects.of_custody {n : Nat} {ticket : Ticket} (given : s.tickets[n]? = some ticket)
    (held : ticket.custody = .held) (t : Table) {custody : Custody} (h : custody ≠ .issuing) :
    Respects s { s with table := t, tickets := s.tickets.modify n (.pass custody) } where
  past _ _ h _ := h
  given := .modify _ _ h
  kept _ c hc kept := ⟨c.life, hc, kept⟩
  nobodyNew new hnew := by
    obtain ⟨m, hm⟩ := List.getElem?_of_mem hnew
    rw [List.getElem?_modify, Option.map_eq_map, Option.map_eq_some_iff] at hm
    obtain ⟨old, hold, rfl⟩ := hm
    exact ⟨old, List.mem_of_getElem? hold, by split <;> rfl⟩
  issuing m other hm issuing := by
    have hne : n ≠ m := by
      rintro rfl
      obtain rfl := Option.some.inj (given.symm.trans hm)
      simp [held] at issuing
    simp [hne, hm]

theorem Respects.of_changes {event : Kernel.Event} {k : Children} (h : Changes s.children event k) :
    Respects s { s with children := k } where
  past _ _ := h.past
  given := .refl _
  kept _ _ := h.kept
  nobodyNew ticket h := ⟨ticket, h, rfl⟩
  issuing _ _ hn _ := hn

end Shared

end PidOne
