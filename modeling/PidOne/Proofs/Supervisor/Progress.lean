import PidOne.Proofs.Supervisor.Rounds

/-!
# Progress

Of the steps of the script and of the runner only so many are left. Where neither can take one, the
runner waits for the lock or for its command, or the script for the end of the reaper.
-/

namespace PidOne

def Spawning.left : Spawning → Nat
  | .queued => 6
  | .locked => 5
  | .forked _ => 4
  | .executing _ | .failed .. => 3
  | .leaving _ => 2
  | .done _ => 1

/-- Until it sleeps or is done, with no more signals coming in. -/
def Relay.left (r : Relay) : Nat :=
  if r.finished || r.asleep then 0 else (Signal.forwarded.filter r.receivers.held).length + 1

def Runner.left : Runner → Nat
  | .idle _ => Signal.forwarded.length + 11
  | .spawning _ progress _ => progress.left + Signal.forwarded.length + 4
  | .waiting _ relay => relay.left + 3
  | .detaching _ relay => if relay.finished then 1 else 2
  | .finished .. => 0

theorem Spawning.Moves.left_lt {task : TaskId} {t t' : Table} {p p' : Spawning}
    {e : Spawning.Event} (h : Spawning.Moves task t p e p' t') : p'.left < p.left := by
  cases h <;> simp [left]

theorem Receivers.length_take_lt {r : Receivers} {s : Signal} (h : r.next? = some s) :
    (Signal.forwarded.filter (r.take s).held).length <
      (Signal.forwarded.filter r.held).length := by
  obtain ⟨forwarded, held⟩ := of_next? h
  have fewer : Signal.forwarded.filter (r.take s).held =
      (Signal.forwarded.filter r.held).filter (· != s) := by
    rw [List.filter_filter]
    apply List.filter_congr
    intro x _
    rw [Bool.eq_iff_iff, take_held]
    simp [and_comm]
  rw [fewer, List.length_filter_lt_length_iff_exists]
  exact ⟨s, List.mem_filter.2 ⟨forwarded, held⟩, by simp⟩

theorem Relay.Moves.left_lt {r r' : Relay} {e : Relay.Event} (h : r.Moves e r') :
    r'.left < r.left := by
  cases h with
  | stop active awake => simp [left, active, awake]
  | send active awake _ next =>
    have fewer := Receivers.length_take_lt next
    simp [left, active, awake, fewer]
  | sleep active awake => simp [left, active, awake]

theorem Relay.left_le (r : Relay) : r.left ≤ Signal.forwarded.length + 1 := by
  have fewer := List.length_filter_le r.receivers.held Signal.forwarded
  unfold left
  split <;> omega

theorem Runner.Moves.left_lt {task : TaskId} {t t' : Table} {r r' : Runner} {e : Runner.Event}
    (h : Runner.Moves task t r e r' t') (winds : r.Winds) (goesOn : e ≠ .return) :
    r'.left < r.left := by
  cases h with
  | begin =>
    simp only [left, Spawning.left]
    omega
  | spawn moves =>
    have fewer := moves.left_lt
    simp only [left]
    omega
  | @launch _ child receivers =>
    have bound := Relay.left_le { group := child.pid, receivers }
    simp only [left, Spawning.left]
    omega
  | fail => simp [left]
  | @receive _ _ relay =>
    simp only [left]
    split <;> omega
  | relay moves =>
    have fewer := moves.left_lt
    simp only [left]
    omega
  | wind moves =>
    cases moves with
    | stop active => simp [left, active]
    | send _ _ runs | sleep _ _ runs => exact nomatch runs.symm.trans winds.1
  | detach finished => simp [left, finished]
  | rest => exact absurd rfl goesOn

namespace Script

/-- A script leads to what comes after the operation at its head. -/
inductive Leads : Script → Script → Prop
  | log : Leads (.log line rest) rest
  | adoptOrphans : Leads (.adoptOrphans rest) rest
  | receiveSignals : Leads (.receiveSignals rest) rest
  | startReaper : Leads (.startReaper interval rest) rest
  | run {p : Phase} : Leads (.run p command rest) (rest answer)
  | stopReaper : Leads (.stopReaper rest) rest

theorem wellFounded_leads : WellFounded fun rest script : Script => script.Leads rest := by
  refine ⟨fun script => ?_⟩
  induction script with
  | done => exact ⟨_, nofun⟩
  | run _ _ _ ih =>
    refine ⟨_, fun _ leads => ?_⟩
    cases leads
    exact ih _
  | _ =>
    refine ⟨_, fun _ leads => ?_⟩
    cases leads
    assumption

end Script

namespace Supervisor

variable {μ : Type} [Host μ] {s s' : Supervisor} {m m' : μ}

/-- What is left to do for the operation at the head of the script. -/
def left (s : Supervisor) : Nat :=
  s.runner.left + if s.reaper.map (·.stopRequested) = some true then 0 else 1

/-- Neither the script nor the runner can take a step. -/
structure Stuck (s : Supervisor) (m : μ) : Prop where
  script : s.advance = none
  runner : ∀ e m', s.runner.next s.table m = some (e, m') → s.runnerStep e = none

theorem Stuck.next (h : Stuck s m) : s.next m = s.reaperNext m := by
  unfold Supervisor.next
  rw [h.script]
  split
  · contradiction
  · split
    · rename_i runner
      simp [h.runner _ _ runner]
    · rfl

theorem exists_step_of_not_stuck (h : ¬Stuck s m) : ∃ e s' m', s.next m = some (e, m') ∧
    s.step e = some s' ∧ (e = .advance ∨ ∃ r, e = .runner r) := by
  cases advance : s.advance with
  | some s' => exact ⟨.advance, s', s.ask m, by simp [Supervisor.next, advance], advance, .inl rfl⟩
  | none =>
    have able : ∃ e m', s.runner.next s.table m = some (e, m') ∧ s.runnerStep e ≠ none := by
      by_contra unable
      refine h ⟨advance, fun e m' next => ?_⟩
      by_contra possible
      exact unable ⟨e, m', next, possible⟩
    obtain ⟨e, m', next, possible⟩ := able
    obtain ⟨s', step⟩ := Option.ne_none_iff_exists'.1 possible
    exact ⟨.runner e, s', m', by simp [Supervisor.next, advance, next, step], step, .inr ⟨e, rfl⟩⟩

/-- What is up to the script and the runner is the same. -/
structure Same (s s' : Supervisor) : Prop where
  script : s'.script = s.script
  runner : s'.runner = s.runner
  asked : s'.reaper.map (·.stopRequested) = s.reaper.map (·.stopRequested)

theorem Same.refl (s : Supervisor) : Same s s := ⟨rfl, rfl, rfl⟩

theorem Same.trans {s'' : Supervisor} (h : Same s s') (h' : Same s' s'') : Same s s'' :=
  ⟨h'.script.trans h.script, h'.runner.trans h.runner, h'.asked.trans h.asked⟩

theorem same_take (e : Reaper.Event) : Same s (s.take (.reaper e)) := by
  cases step : s.step (.reaper e) with
  | none =>
    rw [take, step]
    exact .refl s
  | some s' =>
    rw [take_of_step step]
    cases Moves.of_step step with
    | reaper there moves => exact ⟨rfl, rfl, by simp [there, moves.stopRequested]⟩

theorem Stuck.refuses (h : Stuck s m) {phase : Phase} {command : Command}
    {rest : Except Failure ExitStatus → Script} (head : s.script = .run phase command rest)
    (e : Runner.Event) (next : ∃ m', s.runner.next s.table m = some (e, m'))
    (own : (∀ command, e ≠ .begin command) ∧ e ≠ .return) :
    s.runner.step mainTask s.table e = none := by
  obtain ⟨m', next⟩ := next
  have refused := h.runner e m' next
  unfold runnerStep at refused
  rw [head] at refused
  cases e with
  | begin command => exact absurd rfl (own.1 command)
  | «return» => exact absurd rfl own.2
  | _ => simpa using refused

theorem step_next_of_isInside {task : TaskId} {t : Table} {p : Spawning} {command : Command}
    {e : Spawning.Event} (inside : p.isInside = true) (held : t.holder = some task)
    (next : p.next command true m = some (e, m')) : (p.step task t e).isSome = true := by
  cases p with
  | queued | done => cases inside
  | locked =>
    cases next
    cases (Host.fork m command true).1 <;> rfl
  | forked pid =>
    cases next
    cases (Host.exec m pid command).1 <;> rfl
  | executing | failed =>
    cases next
    rfl
  | leaving =>
    cases next
    simp [Spawning.step, Table.unlock?, held]

/-- A runner that is stuck waits for the lock or for its command. -/
inductive Hangs (s : Supervisor) : Prop
  | idle (idle : s.runner.IsIdle)
  | queued (ready : s.runner = .spawning command .queued receivers) (held : s.table.holder ≠ none)
  | waiting (ready : s.runner = .waiting child relay) (unanswered : s.table.poll child = none)

/-- A start that is stuck has not begun: somebody else is inside. -/
theorem Stuck.queued (h : Stuck s m) (orderly : s.Orderly) {phase : Phase}
    {command other : Command} {rest : Except Failure ExitStatus → Script} {progress : Spawning}
    {receivers : Receivers} (head : s.script = .run phase command rest)
    (ready : s.runner = .spawning other progress receivers) :
    progress = .queued ∧ s.table.holder ≠ none := by
  cases next : progress.next other true m with
  | none =>
    -- The start is over, and the runner could launch the command.
    have refused := h.refuses head .launch (by simp [ready, Runner.next, next]) (by simp)
    cases progress with
    | done answer => cases answer <;> simp [ready, Runner.step] at refused
    | _ => cases next
  | some x =>
    obtain ⟨event, m'⟩ := x
    have refused := h.refuses head (.spawn event) (by simp [ready, Runner.next, next]) (by simp)
    simp only [ready, Runner.step, Option.map_eq_none_iff] at refused
    by_cases inside : progress.isInside = true
    · have held : s.table.holder = some mainTask := by
        rw [← orderly.locks.runner, spawning, ready]
        exact inside
      have goesOn := step_next_of_isInside inside held next
      simp [refused] at goesOn
    · cases progress with
      | queued =>
        refine ⟨rfl, fun free => ?_⟩
        cases next
        simp [Spawning.step, Table.lock?, free] at refused
      | done => cases next
      | _ => exact absurd rfl inside

theorem Stuck.hangs (h : Stuck s m) (orderly : s.Orderly) : s.Hangs := by
  by_cases idle : s.runner.IsIdle
  · exact .idle idle
  obtain ⟨phase, command, rest, head⟩ := orderly.staged.head_of_busy idle
  cases ready : s.runner with
  | idle => exact .idle ⟨_, ready⟩
  | spawning =>
    obtain ⟨rfl, held⟩ := h.queued orderly head ready
    exact .queued ready held
  | waiting child relay =>
    refine .waiting ready ?_
    by_contra answered
    have there := Option.isSome_iff_ne_none.2 answered
    have refused := h.refuses head .receive (by simp [ready, Runner.next, there]) (by simp)
    simp [ready, Runner.step, answered] at refused
  | detaching answer relay =>
    have winds := orderly.winds
    rw [ready] at winds
    obtain ⟨asked, awake⟩ := winds
    cases finished : relay.finished with
    | true =>
      have refused := h.refuses head .detach (by simp [ready, Runner.next, finished]) (by simp)
      simp [ready, Runner.step, finished] at refused
    | false =>
      have refused := h.refuses head (.relay .stop)
        (by simp [ready, Runner.next, Relay.next, finished, awake, asked]) (by simp)
      simp [ready, Runner.step, Relay.step, finished, awake, asked] at refused
  | finished answer receivers =>
    have blocked := h.script
    simp [advance, head, ready, Runner.step] at blocked

theorem leads_or_left_lt {e : Event} (orderly : s.Orderly) (step : s.step e = some s')
    (own : e = .advance ∨ ∃ r, e = .runner r) :
    s.script.Leads s'.script ∨ s'.script = s.script ∧ s'.left < s.left := by
  cases Moves.of_step step with
  | log ahead =>
    rw [ahead]
    exact .inl .log
  | adoptOrphans ahead =>
    rw [ahead]
    exact .inl .adoptOrphans
  | receiveSignals ahead =>
    rw [ahead]
    exact .inl .receiveSignals
  | startReaper ahead =>
    rw [ahead]
    exact .inl .startReaper
  | begin ahead idle =>
    refine .inr ⟨rfl, ?_⟩
    simp only [left, idle, Runner.left, Spawning.left]
    omega
  | finish ahead =>
    rw [ahead]
    exact .inl .run
  | @requestStop _ r ahead there =>
    refine .inr ⟨rfl, ?_⟩
    have unasked : r.stopRequested = false := by
      refine Bool.eq_false_iff.2 fun asked => ?_
      simp only [Supervisor.step, advance, ahead, there] at step
      rw [if_pos asked] at step
      split at step <;> cases step
    simp [left, there, unasked, Reaper.requestStop]
  | stopped ahead =>
    rw [ahead]
    exact .inl .stopReaper
  | runner ahead goesOn moves =>
    refine .inr ⟨rfl, ?_⟩
    have fewer := moves.left_lt orderly.winds goesOn.2
    simp only [left]
    omega
  | reaper | signal => rcases own with own | ⟨_, own⟩ <;> cases own

theorem Same.left (h : Same s s') : s'.left = s.left := by
  rw [Supervisor.left, Supervisor.left, h.runner, h.asked]

end Supervisor

end PidOne
