import PidOne.Proofs.Table.Progress
import PidOne.Reaper

/-!
# The steps of a reaper
-/

namespace PidOne

inductive Reaper.Moves (task : TaskId) (t : Table) (r : Reaper) :
    Reaper.Event → Reaper → Table → Prop
  | pass {p : Pass} (busy : r.activity = .passing p) (moves : Pass.Moves task t p e p' t') :
    Moves task t r (.pass e) { r with activity := .passing p' } t'
  | rest (busy : r.activity = .passing (.done statuses)) :
    Moves task t r (.rest now) { r with activity := .idle (now + max r.interval 1) } t
  | stop (idle : r.activity = .idle deadline) (asked : r.stopRequested = true) :
    Moves task t r (.wake .stop) { r with activity := .ended } t
  | timer (idle : r.activity = .idle deadline) (due : deadline ≤ now) :
    Moves task t r (.wake (.timer now)) { r with activity := .passing .queued } t
  | childEnded (idle : r.activity = .idle deadline) (told : r.childEnded = true) :
    Moves task t r (.wake .childEnded)
      { r with activity := .passing .queued, childEnded := false } t

namespace Reaper

variable {task : TaskId} {t t' : Table} {r r' : Reaper} {e : Event}

theorem Moves.of_step (h : r.step task t e = some (r', t')) : Moves task t r e r' t' := by
  unfold Reaper.step at h
  split at h
  · simp only [Option.map_eq_some_iff, Prod.mk.injEq] at h
    obtain ⟨⟨pass', t''⟩, step, rfl, rfl⟩ := h
    exact .pass ‹_› (Pass.step_eq_some.1 step)
  · cases h
    exact .rest ‹_›
  · split at h <;> cases h
    exact .stop ‹_› ‹_›
  · split at h <;> cases h
    exact .timer ‹_› ‹_›
  · split at h <;> cases h
    exact .childEnded ‹_› ‹_›
  · cases h

/-- Only a request to stop ends a reaper. -/
theorem Moves.stopRequested (h : Moves task t r e r' t') : r'.stopRequested = r.stopRequested := by
  cases h <;> rfl

theorem Moves.hasEnded (h : Moves task t r e r' t') (ended : r'.hasEnded = true) :
    r.stopRequested = true := by
  cases h with
  | stop _ asked => exact asked
  | _ => cases ended

theorem hasEnded_iff : r.hasEnded = true ↔ r.activity = .ended := by
  cases h : r.activity <;> simp [Reaper.hasEnded, h]

/-- A task that has ended takes no step. -/
theorem Moves.goesOn (h : Moves task t r e r' t') : r.hasEnded = false := by
  cases h with
  | pass busy | rest busy => simp [Reaper.hasEnded, busy]
  | stop idle | timer idle | childEnded idle => simp [Reaper.hasEnded, idle]

theorem arrive_activity (s : Signal) (r : Reaper) : (r.arrive s).activity = r.activity := by
  unfold Reaper.arrive
  split <;> rfl

theorem arrive_stopRequested (s : Signal) (r : Reaper) :
    (r.arrive s).stopRequested = r.stopRequested := by
  unfold Reaper.arrive
  split <;> rfl

end Reaper

end PidOne
