import Mathlib.Data.Nat.Find
import PidOne.Proofs.Supervisor.Progress

/-!
# A supervisor comes to its result

If every command ends, a run of a supervisor comes to its result. Where neither the script nor the
runner can take a step, the reaper makes one pass after another, and one of them collects what the
runner waits for or finds that the reaper is to stop.
-/

namespace PidOne.Supervisor

variable {μ : Type} [Host μ] {s s' : Supervisor} {m m' : μ}

structure Endless (c : Nat → Supervisor × μ) : Prop where
  round : ∀ k, (c k).1.round (c k).2 = some (c (k + 1))
  orderly : ∀ k, (c k).1.Orderly
  ongoing : ∀ k, (c k).1.result? = none
  passes : ∀ n, ∃ k ≥ n, ∀ answer m',
    (c k).1.next (c k).2 = some (.reaper (.pass (.wait answer)), m') → answer.closes = true
  children : ∀ pid, ∃ n, ∀ k ≥ n, (c k).1.table.isTracked pid = true →
    (Host.waitAny (c k).2).1.closes = false
  time : ∀ n t, (∀ k ≥ n, (c k).1.next (c k).2 = none) → ∃ k ≥ n, t ≤ Host.milliseconds (c k).2

variable {c : Nat → Supervisor × μ} {k n : Nat} {e : Event}

theorem Endless.later (h : Endless c) (j : Nat) : Endless fun k => c (j + k) where
  round k := h.round (j + k)
  orderly k := h.orderly (j + k)
  ongoing k := h.ongoing (j + k)
  passes n := by
    obtain ⟨k, after, closes⟩ := h.passes (j + n)
    refine ⟨k - j, by omega, ?_⟩
    rwa [show j + (k - j) = k by omega]
  children pid := by
    obtain ⟨n, ended⟩ := h.children pid
    exact ⟨n, fun k after => ended (j + k) (by omega)⟩
  time n t idle := by
    obtain ⟨k, after, passed⟩ := h.time (j + n) t fun k after => by
      have idle := idle (k - j) (by omega)
      rwa [show j + (k - j) = k by omega] at idle
    refine ⟨k - j, by omega, ?_⟩
    rwa [show j + (k - j) = k by omega]

/-- An endless run in which no more signals come in. -/
structure Quiet (c : Nat → Supervisor × μ) : Prop extends Endless c where
  quiet : ∀ k, Host.arrival? (c k).2 = none

theorem Quiet.later (h : Quiet c) (j : Nat) : Quiet fun k => c (j + k) where
  toEndless := h.toEndless.later j
  quiet k := h.quiet (j + k)

theorem Quiet.of_next (h : Quiet c) (next : (c k).1.next (c k).2 = some (e, m')) :
    c (k + 1) = ((c k).1.take e, m') := by
  have round := h.round k
  simp only [Supervisor.round, h.quiet k, next, Option.some.injEq] at round
  exact round.symm

theorem Quiet.of_idle (h : Quiet c) (idle : (c k).1.next (c k).2 = none) :
    (c (k + 1)).1 = (c k).1 := by
  have round := h.round k
  simp only [Supervisor.round, h.quiet k, idle, Option.map_eq_some_iff] at round
  obtain ⟨m', _, same⟩ := round
  rw [← same]

theorem Quiet.same_of_stuck (h : Quiet c) (stuck : Stuck (c k).1 (c k).2) :
    Same (c k).1 (c (k + 1)).1 := by
  cases next : (c k).1.next (c k).2 with
  | none =>
    rw [h.of_idle next]
    exact .refl _
  | some x =>
    obtain ⟨e, m'⟩ := x
    rw [h.of_next next]
    rw [stuck.next] at next
    simp only [reaperNext, Option.bind_eq_some_iff, Option.map_eq_some_iff] at next
    obtain ⟨r, _, y, _, same⟩ := next
    cases same
    exact same_take _

/-- Until the script or the runner takes a step nothing changes for them. -/
theorem Quiet.same_until (h : Quiet c) (stuck : ∀ k < n, Stuck (c k).1 (c k).2) :
    ∀ k ≤ n, Same (c 0).1 (c k).1 := by
  intro k before
  induction k with
  | zero => exact .refl _
  | succ k ih => exact (ih (by omega)).trans (h.same_of_stuck (stuck k (by omega)))

def Reaps (s : Supervisor) (a : Reaper.Activity) : Prop := ∃ r, s.reaper = some r ∧ r.activity = a

/-- One in which neither the script nor the runner ever takes a step, besides. -/
structure Stalled (c : Nat → Supervisor × μ) : Prop extends Quiet c where
  stuck : ∀ k, Stuck (c k).1 (c k).2

section

variable {deadline : Nat} {statuses : List ExitStatus} {r : Reaper}

theorem Stalled.same (h : Stalled c) (k : Nat) : Same (c 0).1 (c k).1 :=
  h.same_until (fun k _ => h.stuck k) k (Nat.le_refl k)

theorem Stalled.blocked (h : Stalled c) (k : Nat) : (c k).1.advance.isSome = false := by
  simp [(h.stuck k).script]

theorem Stalled.reaper (h : Stalled c) (k : Nat) :
    ∃ r, (c k).1.reaper = some r ∧ r.activity ≠ .ended := by
  have blocked := h.blocked k
  cases (h.orderly k).staged with
  | opening ahead => simp [advance_isSome_of_opening ahead] at blocked
  | closing ahead => simp [advance_isSome_of_closing ahead (h.ongoing k)] at blocked
  | @running r _ there needed asked =>
    refine ⟨r, there, fun ended => ?_⟩
    have ended : r.hasEnded = true := Reaper.hasEnded_iff.2 ended
    obtain ⟨rest, head⟩ := needed (asked ended)
    simp [advance_isSome_of_ended head there ended] at blocked

theorem Stalled.of_reaper (h : Stalled c) {event : Reaper.Event} (there : (c k).1.reaper = some r)
    (next : r.next (c k).2 = some (event, m')) : c (k + 1) = ((c k).1.take (.reaper event), m') := by
  apply h.of_next
  simp [(h.stuck k).next, reaperNext, there, next]

theorem take_reaper {event : Reaper.Event} {r' : Reaper} {t' : Table} (there : s.reaper = some r)
    (step : r.step reaperTask s.table event = some (r', t')) :
    (s.take (.reaper event)).reaper = some r' := by
  simp [take, Supervisor.step, reaperStep, there, step]

theorem Stalled.reaps (h : Stalled c) (there : (c k).1.reaper = some r) (event : Reaper.Event)
    (r' : Reaper) (next : ∃ m', r.next (c k).2 = some (event, m'))
    (step : ∃ t', r.step reaperTask (c k).1.table event = some (r', t')) :
    Reaps (c (k + 1)).1 r'.activity := by
  obtain ⟨m', next⟩ := next
  obtain ⟨t', step⟩ := step
  rw [h.of_reaper there next]
  exact ⟨r', take_reaper there step, rfl⟩

/-- Nobody is inside but the reaper. -/
theorem Stalled.free (h : Stalled c) (outside : (c k).1.reaping.isInside = false) :
    (c k).1.table.holder = none := by
  have locks := (h.orderly k).locks
  have runner : (c k).1.spawning.isInside = false := by
    cases (h.stuck k).hangs (h.orderly k) with
    | idle idle => exact isInside_of_isIdle idle
    | queued ready | waiting ready =>
      rw [spawning, ready]
      rfl
  cases holder : (c k).1.table.holder with
  | none => rfl
  | some task =>
    rcases locks.nobody task holder with rfl | rfl
    · cases (locks.runner.2 holder).symm.trans runner
    · cases (locks.reaper.2 holder).symm.trans outside

theorem reaping_of_reaps {pass : Pass} (h : Reaps s (.passing pass)) :
    s.reaping.isInside = pass.isInside := by
  obtain ⟨r, there, activity⟩ := h
  simp [reaping, there, User.work, activity, Work.isInside]

theorem Stalled.reaps_queued (h : Stalled c) (queued : Reaps (c k).1 (.passing .queued)) :
    Reaps (c (k + 1)).1 (.passing (.collecting [])) := by
  have free := h.free (reaping_of_reaps queued)
  obtain ⟨r, there, activity⟩ := queued
  refine h.reaps there (.pass .lock) { r with activity := .passing (.collecting []) } ?_ ?_
  · simp [Reaper.next, activity, Pass.next]
  · simp [Reaper.step, activity, Pass.step, Table.lock?, free]

theorem Stalled.reaps_leaving (h : Stalled c)
    (leaving : Reaps (c k).1 (.passing (.leaving statuses))) :
    Reaps (c (k + 1)).1 (.passing (.done statuses)) := by
  have held := (h.orderly k).locks.reaper.1 (reaping_of_reaps leaving)
  obtain ⟨r, there, activity⟩ := leaving
  refine h.reaps there (.pass .unlock) { r with activity := .passing (.done statuses) } ?_ ?_
  · simp [Reaper.next, activity, Pass.next]
  · simp [Reaper.step, activity, Pass.step, Table.unlock?, held]

theorem Stalled.reaps_done (h : Stalled c) (done : Reaps (c k).1 (.passing (.done statuses))) :
    ∃ deadline, Reaps (c (k + 1)).1 (.idle deadline) := by
  obtain ⟨r, there, activity⟩ := done
  let deadline := Host.milliseconds (c k).2 + max r.interval 1
  refine ⟨deadline, h.reaps there (.rest (Host.milliseconds (c k).2))
    { r with activity := .idle deadline } ?_ ?_⟩
  · simp [Reaper.next, activity, Pass.next]
  · simp [Reaper.step, activity, deadline]

/-- A pass goes on until the kernel has nothing to report. -/
theorem Stalled.reaps_collecting (h : Stalled c)
    (collecting : Reaps (c k).1 (.passing (.collecting statuses))) :
    (c k).1.next (c k).2 =
        some (.reaper (.pass (.wait (Host.waitAny (c k).2).1)), (Host.waitAny (c k).2).2) ∧
      ∃ statuses', Reaps (c (k + 1)).1 (.passing (if (Host.waitAny (c k).2).1.closes
        then .leaving statuses' else .collecting statuses')) := by
  obtain ⟨r, there, activity⟩ := collecting
  have next : r.next (c k).2 =
      some (.pass (.wait (Host.waitAny (c k).2).1), (Host.waitAny (c k).2).2) := by
    simp [Reaper.next, activity, Pass.next]
  refine ⟨by simp [(h.stuck k).next, reaperNext, there, next], ?_⟩
  cases closes : (Host.waitAny (c k).2).1.closes with
  | true =>
    refine ⟨statuses, h.reaps there _ { r with activity := .passing (.leaving statuses) }
      ⟨_, next⟩ ?_⟩
    simp [Reaper.step, activity, Pass.step, closes]
  | false =>
    let statuses' := statuses ++ (Host.waitAny (c k).2).1.status?.toList
    refine ⟨statuses', h.reaps there _ { r with activity := .passing (.collecting statuses') }
      ⟨_, next⟩ ?_⟩
    cases reported : (Host.waitAny (c k).2).1.status? <;>
      simp [Reaper.step, activity, Pass.step, closes, reported, statuses']

/-- An idle reaper that has been asked to stop would end. -/
theorem Stalled.unasked_of_idle (h : Stalled c) (there : (c k).1.reaper = some r)
    (idle : r.activity = .idle deadline) : r.stopRequested = false := by
  refine Bool.eq_false_iff.2 fun stop => ?_
  obtain ⟨r', there', goesOn⟩ := h.reaper (k + 1)
  obtain ⟨_, there'', ended⟩ := h.reaps there (.wake .stop) { r with activity := .ended }
    (by simp [Reaper.next, idle, stop]) (by simp [Reaper.step, idle, stop])
  cases there'.symm.trans there''
  exact goesOn ended

theorem Stalled.reaps_idle (h : Stalled c) (idle : Reaps (c k).1 (.idle deadline)) :
    Reaps (c (k + 1)).1 (.passing .queued) ∨
      (c k).1.next (c k).2 = none ∧ Host.milliseconds (c k).2 < deadline := by
  obtain ⟨r, there, activity⟩ := idle
  have stop := h.unasked_of_idle there activity
  by_cases signalled : r.childEnded = true
  · refine .inl (h.reaps there (.wake .childEnded)
      { r with activity := .passing .queued, childEnded := false } ?_ ?_)
    · simp [Reaper.next, activity, stop, signalled]
    · simp [Reaper.step, activity, signalled]
  by_cases due : deadline ≤ Host.milliseconds (c k).2
  · refine .inl (h.reaps there (.wake (.timer (Host.milliseconds (c k).2)))
      { r with activity := .passing .queued } ?_ ?_)
    · simp [Reaper.next, activity, stop, signalled, due]
    · simp [Reaper.step, activity, due]
  · refine .inr ⟨?_, by omega⟩
    simp [(h.stuck k).next, reaperNext, there, Reaper.next, activity, stop, signalled, due]

/-- A pass ends at this time or later, when the kernel has nothing to report. -/
def Closes (c : Nat → Supervisor × μ) (n : Nat) : Prop :=
  ∃ k ≥ n, (∃ statuses, Reaps (c k).1 (.passing (.collecting statuses))) ∧
    (Host.waitAny (c k).2).1.closes = true

theorem Closes.of_le {j : Nat} (h : Closes c j) (later : n ≤ j) : Closes c n := by
  obtain ⟨k, after, closes⟩ := h
  exact ⟨k, by omega, closes⟩

theorem Stalled.closes_collecting (h : Stalled c)
    (collecting : Reaps (c n).1 (.passing (.collecting statuses))) : Closes c n := by
  by_contra never
  have goesOn : ∀ k ≥ n, ∃ statuses, Reaps (c k).1 (.passing (.collecting statuses)) := by
    intro k later
    induction k, later using Nat.le_induction with
    | base => exact ⟨statuses, collecting⟩
    | succ k later ih =>
      obtain ⟨before, collecting⟩ := ih
      obtain ⟨_, after, reaps⟩ := h.reaps_collecting collecting
      split at reaps
      · exact absurd ⟨k, later, ⟨before, collecting⟩, ‹_›⟩ never
      · exact ⟨after, reaps⟩
  obtain ⟨k, later, closes⟩ := h.passes n
  obtain ⟨before, collecting⟩ := goesOn k later
  have closes := closes _ _ (h.reaps_collecting collecting).1
  exact never ⟨k, later, ⟨before, collecting⟩, closes⟩

theorem Stalled.closes_queued (h : Stalled c) (queued : Reaps (c n).1 (.passing .queued)) :
    Closes c n :=
  (h.closes_collecting (h.reaps_queued queued)).of_le (by omega)

theorem Stalled.waits (h : Stalled c) (never : ¬Closes c n) (later : n ≤ k)
    (idle : Reaps (c k).1 (.idle deadline)) :
    (c k).1.next (c k).2 = none ∧ Host.milliseconds (c k).2 < deadline := by
  rcases h.reaps_idle idle with queued | waits
  · exact absurd ((h.closes_queued queued).of_le (by omega)) never
  · exact waits

theorem Stalled.closes_idle (h : Stalled c) (idle : Reaps (c n).1 (.idle deadline)) :
    Closes c n := by
  by_contra never
  have asleep : ∀ k ≥ n, Reaps (c k).1 (.idle deadline) := by
    intro k later
    induction k, later using Nat.le_induction with
    | base => exact idle
    | succ k later ih =>
      rw [h.of_idle (h.waits never later ih).1]
      exact ih
  obtain ⟨k, later, due⟩ := h.time n deadline fun k later =>
    (h.waits never later (asleep k later)).1
  have early := (h.waits never later (asleep k later)).2
  omega

theorem Stalled.closes_done (h : Stalled c) (done : Reaps (c n).1 (.passing (.done statuses))) :
    Closes c n := by
  obtain ⟨_, idle⟩ := h.reaps_done done
  exact (h.closes_idle idle).of_le (by omega)

theorem Stalled.closes (h : Stalled c) (n : Nat) : Closes c n := by
  obtain ⟨r, there, goesOn⟩ := h.reaper n
  have reaps {a : Reaper.Activity} (activity : r.activity = a) : Reaps (c n).1 a :=
    ⟨r, there, activity⟩
  cases activity : r.activity with
  | passing pass =>
    cases pass with
    | queued => exact h.closes_queued (reaps activity)
    | collecting => exact h.closes_collecting (reaps activity)
    | leaving =>
      exact (h.closes_done (h.reaps_leaving (reaps activity))).of_le (by omega)
    | done => exact h.closes_done (reaps activity)
  | idle => exact h.closes_idle (reaps activity)
  | ended => exact absurd activity goesOn

/-- After the end of a pass the reaper has left the table, and idles in the next round. -/
theorem Stalled.leaves (h : Stalled c) (n : Nat) : ∃ k ≥ n, ∃ statuses deadline,
    Reaps (c k).1 (.passing (.done statuses)) ∧ Reaps (c (k + 1)).1 (.idle deadline) := by
  obtain ⟨k, later, ⟨_, collecting⟩, closes⟩ := h.closes n
  obtain ⟨_, statuses, reaps⟩ := h.reaps_collecting collecting
  rw [if_pos closes] at reaps
  have done := h.reaps_leaving reaps
  obtain ⟨deadline, idle⟩ := h.reaps_done done
  exact ⟨k + 2, by omega, statuses, deadline, done, idle⟩

end

theorem Stalled.unasked (h : Stalled c) : (c 0).1.reaper.map (·.stopRequested) = some false := by
  obtain ⟨k, _, _, _, _, r, there, idle⟩ := h.leaves 0
  have asked := (h.same (k + 1)).asked
  rw [there] at asked
  simp [← asked, h.unasked_of_idle there idle]

theorem not_stalled : ¬Stalled c := by
  intro h
  have blocked := h.blocked 0
  cases (h.stuck 0).hangs (h.orderly 0) with
  | idle idle =>
    obtain ⟨receivers, idle⟩ := idle
    obtain ⟨r, there, goesOn⟩ := h.reaper 0
    have unasked := h.unasked
    cases (h.orderly 0).staged with
    | opening ahead => simp [advance_isSome_of_opening ahead] at blocked
    | closing ahead => simp [advance_isSome_of_closing ahead (h.ongoing 0)] at blocked
    | running ahead =>
      cases head : (c 0).1.script with
      | log => simp [advance, head] at blocked
      | run => simp [advance, head, idle, Runner.step] at blocked
      | stopReaper =>
        simp only [there, Option.map_some, Option.some.injEq] at unasked
        simp only [advance, head, there, unasked] at blocked
        split at blocked <;> cases blocked
      | _ =>
        rw [head] at ahead
        exact ahead.elim
  | queued ready =>
    -- The reaper leaves the table some time, and the runner could enter it.
    obtain ⟨k, _, _, _, done, _⟩ := h.leaves 0
    have free := h.free (reaping_of_reaps done)
    have ready := (h.same k).runner.trans ready
    cases (h.stuck k).hangs (h.orderly k) with
    | idle idle =>
      obtain ⟨_, idle⟩ := idle
      cases idle.symm.trans ready
    | queued _ held => exact held free
    | waiting ready' => cases ready'.symm.trans ready
  | @waiting child relay ready =>
    -- The child is tracked as long as it is waited for, but some pass ends without it.
    have tracked : ∀ k, (c k).1.table.isTracked child.pid = true := by
      intro k
      have ready := (h.same k).runner.trans ready
      cases (h.stuck k).hangs (h.orderly k) with
      | idle idle =>
        obtain ⟨_, idle⟩ := idle
        cases idle.symm.trans ready
      | queued ready' => cases ready'.symm.trans ready
      | waiting ready' unanswered =>
        cases ready'.symm.trans ready
        exact ((h.orderly k).owes child (by rw [ready]; rfl)).tracked unanswered
    obtain ⟨n, ended⟩ := h.children child.pid
    obtain ⟨k, later, _, closes⟩ := h.closes n
    cases closes.symm.trans (ended k later (tracked k))

/-- The script or the runner does take a step, and until then nothing changes for them. -/
theorem Quiet.steps (h : Quiet c) : ∃ n e, Same (c 0).1 (c n).1 ∧
    (c n).1.step e = some (c (n + 1)).1 ∧ (e = .advance ∨ ∃ r, e = .runner r) := by
  classical
  -- The first round in which one of them can take a step.
  have goesOn : ∃ k, ¬Stuck (c k).1 (c k).2 := by
    by_contra stuck
    exact not_stalled { h with stuck := fun k => by_contra fun free => stuck ⟨k, free⟩ }
  have same := h.same_until (fun k before => by_contra (Nat.find_min goesOn before)) _
    (Nat.le_refl _)
  obtain ⟨e, s', m', next, step, own⟩ := exists_step_of_not_stuck (Nat.find_spec goesOn)
  refine ⟨Nat.find goesOn, e, same, ?_, own⟩
  rw [h.of_next next, take_of_step step]
  exact step

theorem not_quiet : ¬Quiet c := by
  -- A step leads on in the script, or leaves less to do for the operation at its head.
  intro h
  generalize start : (c 0).1.script = script
  induction script using Script.wellFounded_leads.induction generalizing c with
  | _ script shorter =>
    generalize amount : (c 0).1.left = left
    induction left using Nat.strongRecOn generalizing c with
    | ind left fewer =>
      obtain ⟨n, e, same, step, own⟩ := h.steps
      rcases leads_or_left_lt (h.orderly n) step own with leads | ⟨stays, less⟩
      · rw [same.script, start] at leads
        exact shorter _ leads (h.later (n + 1)) rfl
      · rw [same.left, amount] at less
        exact fewer _ less (h.later (n + 1)) (stays.trans (same.script.trans start)) rfl

/-- What has to happen for a result: the supervisor is not killed, at some time the last signal
has come in, each child whose status is waited for has ended at some time and is then reported, no
pass collects others forever, and time goes by while there is nothing to do. -/
structure Ends (s : Supervisor) (m : μ) : Prop where
  survives : ∀ k, Host.killedBy? (rounds k s m).2 = none
  signals : ∃ n, ∀ k ≥ n, (rounds k s m).1.result? = none → Host.arrival? (rounds k s m).2 = none
  children : ∀ pid, ∃ n, ∀ k ≥ n, (rounds k s m).1.table.isTracked pid = true →
    (Host.waitAny (rounds k s m).2).1.closes = false
  passes : ∀ n, ∃ k ≥ n, ∀ answer m', (rounds k s m).1.next (rounds k s m).2 =
    some (.reaper (.pass (.wait answer)), m') → answer.closes = true
  time : ∀ n t, (∀ k ≥ n, (rounds k s m).1.result? = none ∧
    (rounds k s m).1.next (rounds k s m).2 = none) → ∃ k ≥ n, t ≤ Host.milliseconds (rounds k s m).2

theorem Ends.endless [Host.Lawful μ] (h : Ends s m) (orderly : s.Orderly)
    (ongoing : ∀ k, (rounds k s m).1.result? = none) : Endless fun k => rounds k s m where
  round k := by
    have orderly := orderly_rounds orderly m k
    obtain ⟨x, round⟩ := Option.isSome_iff_exists.1
      (round_isSome orderly (ongoing k) (rounds k s m).2)
    have goesOn : (rounds k s m).1.isOver (rounds k s m).2 = false := by
      simp [isOver, ongoing, h.survives]
    rw [rounds_succ, rounds_succ_of_round goesOn round, round]
    rfl
  orderly := orderly_rounds orderly m
  ongoing := ongoing
  passes := h.passes
  children := h.children
  time n t idle := h.time n t fun k later => ⟨ongoing k, idle k later⟩

theorem returns [Host.Lawful μ] (orderly : s.Orderly) (ends : Ends s m) :
    ∃ n result, ∀ k ≥ n, (rounds k s m).1.result? = some result := by
  by_contra never
  have ongoing : ∀ k, (rounds k s m).1.result? = none := by
    intro k
    cases returned : (rounds k s m).1.result? with
    | none => rfl
    | some result =>
      refine absurd ⟨k, result, fun j later => ?_⟩ never
      rw [rounds_of_result returned later, returned]
  obtain ⟨n, quiet⟩ := ends.signals
  exact not_quiet {
    toEndless := (ends.endless orderly ongoing).later n
    quiet := fun k => quiet (n + k) (by omega) (ongoing (n + k)) }

theorem next_of_result {result : Result} (staged : s.Staged) (returned : s.result? = some result)
    (m : μ) : s.next m = none := by
  have done := script_of_result? returned
  obtain ⟨gone, receivers, idle⟩ := staged.of_done done
  simp [Supervisor.next, advance, done, idle, Runner.next, reaperNext, gone]

/-- A run that has come to its result, and to the end of all children, had all that it takes. -/
theorem Ends.of_result {result : Result} (orderly : s.Orderly)
    (returned : (rounds n s m).1.result? = some result)
    (survives : Host.killedBy? (rounds n s m).2 = none)
    (collected : ∀ pid, (rounds n s m).1.table.isTracked pid = false) : Ends s m where
  survives k := by
    rcases Nat.le_total n k with later | earlier
    · rwa [rounds_of_result returned later]
    · obtain ⟨i, rfl⟩ := Nat.exists_eq_add_of_le earlier
      by_contra killed
      have stops : (rounds k s m).1.isOver (rounds k s m).2 = true := by
        simp [isOver, Option.isSome_iff_ne_none, killed]
      rw [rounds_add, rounds_of_stopped (.inl stops)] at survives
      exact killed survives
  signals := ⟨n, fun k later ongoing => by
    rw [rounds_of_result returned later, returned] at ongoing
    cases ongoing⟩
  children pid := ⟨n, fun k later tracked => by
    rw [rounds_of_result returned later, collected] at tracked
    cases tracked⟩
  passes j := ⟨n + j, by omega, fun answer m' next => by
    have staged := (orderly_rounds orderly m n).staged
    rw [rounds_of_result returned (by omega), next_of_result staged returned] at next
    cases next⟩
  time j t idle := by
    have ongoing := (idle (n + j) (by omega)).1
    rw [rounds_of_result returned (by omega), returned] at ongoing
    cases ongoing

end PidOne.Supervisor
