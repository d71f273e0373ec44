import Mathlib.Data.Nat.Init
import PidOne.Proofs.Supervisor.Answers
import PidOne.Proofs.Supervisor.Rounds

/-!
# The starts in a run

The kernel is asked for a child for each command that the script hands to the runner, and for no
other one. By then it is settled whether orphans are adopted.
-/

namespace PidOne

def Runner.hasForked : Runner → Bool
  | .idle _ | .spawning _ .queued _ | .spawning _ .locked _ => false
  | _ => true

@[simp] theorem Runner.hasForked_arrive (r : Runner) (s : Signal) :
    (r.arrive s).hasForked = r.hasForked := by
  cases r with
  | spawning _ progress => cases progress <;> rfl
  | _ => rfl

theorem Runner.IsIdle.hasForked {r : Runner} (h : r.IsIdle) : r.hasForked = false := by
  obtain ⟨receivers, rfl⟩ := h
  rfl

theorem Runner.Moves.hasForked {task : TaskId} {t t' : Table} {r r' : Runner} {e : Runner.Event}
    (h : Runner.Moves task t r e r' t') (goesOn : e ≠ .return) :
    r'.hasForked = true ↔ r.hasForked = true ∨ ∃ answer command receivers,
      e = .spawn (.fork answer) ∧ r = .spawning command .locked receivers := by
  cases h with
  | rest => exact absurd rfl goesOn
  | spawn moves => cases moves <;> simp [Runner.hasForked]
  | _ => simp [Runner.hasForked]

namespace Supervisor

variable {μ : Type} [Host μ] {s s' : Supervisor} {m m' : μ} {e : Event}
variable {phase : Phase} {command : Command} {full : Script} {past : List Script.Answer}

/-- The kernel has been asked for the child for the command at the head of the script. -/
def Begun (s : Supervisor) (phase : Phase) (command : Command) : Prop :=
  (∃ rest, s.script = .run phase command rest) ∧ s.runner.hasForked = true

/-- The commands that have been answered, and the one that has been begun. -/
def Reached (s : Supervisor) (past : List Script.Answer) (phase : Phase) (command : Command) :
    Prop :=
  (phase, command) ∈ past.map Prod.fst ∨ s.Begun phase command

/-- The runner starts the command at the head of the script. -/
def Serves (s : Supervisor) : Prop :=
  ∀ command progress receivers, s.runner = .spawning command progress receivers →
    ∃ phase rest, s.script = .run phase command rest

theorem serves_of_isIdle (h : s.runner.IsIdle) : s.Serves := by
  rintro command progress receivers busy
  obtain ⟨_, idle⟩ := h
  cases idle.symm.trans busy

theorem Serves.moves (h : s.Serves) (staged : s.Staged) (moves : Moves s e s') : s'.Serves := by
  cases moves with
  | log ahead | adoptOrphans ahead | startReaper ahead | stopped ahead =>
    exact serves_of_isIdle (staged.idle (by simp [ahead]))
  | receiveSignals ahead => exact serves_of_isIdle (staged.idle (by simp [ahead])).register
  | begin ahead =>
    rintro _ _ _ ⟨⟩
    exact ⟨_, _, ahead⟩
  | finish => exact serves_of_isIdle ⟨_, rfl⟩
  | requestStop | reaper => exact h
  | runner _ goesOn moves =>
    rintro command progress receivers busy
    generalize ready : s.runner = r at moves
    cases moves with
    | begin => exact absurd rfl (goesOn.1 _)
    | spawn =>
      cases busy
      exact h _ _ _ ready
    | _ => cases busy
  | signal =>
    rintro command progress receivers busy
    cases ready : s.runner with
    | spawning =>
      simp only [ready, Runner.arrive] at busy
      cases busy
      exact h _ _ _ ready
    | _ => simp [ready, Runner.arrive] at busy

theorem begun_iff {p : Phase} {c : Command} {rest : Except Failure ExitStatus → Script}
    (ahead : s.script = .run p c rest) :
    s.Begun phase command ↔ (phase, command) = (p, c) ∧ s.runner.hasForked = true := by
  simp only [Begun, ahead, Script.run.injEq, Prod.mk.injEq, exists_and_left, exists_eq', and_true,
    eq_comm]

theorem reached_of_not_forked (h : s.runner.hasForked = false) :
    s.Reached past phase command ↔ (phase, command) ∈ past.map Prod.fst :=
  or_iff_left fun begun => nomatch begun.2.symm.trans h

def Asks (s : Supervisor) (e : Event) (phase : Phase) (command : Command) : Prop :=
  (∃ answer, e = .runner (.spawn (.fork answer))) ∧ (∃ rest, s.script = .run phase command rest) ∧
    ∃ receivers, s.runner = .spawning command .locked receivers

section

variable (recalls : Script.Recalls full s.script past) (staged : s.Staged) (serves : s.Serves)
variable (once : ∀ answers, ((full.follow answers).attempts.map Prod.fst).Nodup)

include recalls staged serves once

theorem Moves.reached (moves : Moves s e s') : ∃ past', Script.Recalls full s'.script past' ∧
    ∀ phase command, s'.Reached past' phase command ↔
      s.Reached past phase command ∨ s.Asks e phase command := by
  have idle (other : ∀ phase command rest, s.script ≠ .run phase command rest)
      (idle' : s'.runner.IsIdle) (silent : ∀ phase command, ¬s.Asks e phase command)
      (phase : Phase) (command : Command) :
      s'.Reached past phase command ↔ s.Reached past phase command ∨ s.Asks e phase command := by
    rw [reached_of_not_forked idle'.hasForked,
      reached_of_not_forked (staged.idle other).hasForked, or_iff_left (silent phase command)]
  cases moves with
  | log ahead | adoptOrphans ahead | startReaper ahead | stopped ahead =>
    have other : ∀ phase command rest, s.script ≠ .run phase command rest := by simp [ahead]
    rw [ahead] at recalls
    exact ⟨past, recalls.skip fun _ => rfl, idle other (staged.idle other) (by simp [Asks])⟩
  | receiveSignals ahead =>
    have other : ∀ phase command rest, s.script ≠ .run phase command rest := by simp [ahead]
    rw [ahead] at recalls
    exact ⟨past, recalls.skip fun _ => rfl,
      idle other (staged.idle other).register (by simp [Asks])⟩
  | begin ahead ready =>
    refine ⟨past, recalls, fun phase command => ?_⟩
    rw [reached_of_not_forked rfl, reached_of_not_forked (by rw [ready]; rfl)]
    simp [Asks]
  | @finish _ _ _ answer _ ahead finished =>
    rw [ahead] at recalls
    refine ⟨_, recalls.answer once answer, fun phase command => ?_⟩
    rw [reached_of_not_forked rfl]
    simp [Reached, begun_iff ahead, finished, Runner.hasForked, Asks]
  | runner ahead goesOn moves =>
    refine ⟨past, recalls, fun phase command => ?_⟩
    simp only [Reached, Begun, Asks, moves.hasForked goesOn.2, ahead, Event.runner.injEq]
    constructor
    · rintro (answered | ⟨head, forked | ⟨answer, other, receivers, asks, ready⟩⟩)
      · exact .inl (.inl answered)
      · exact .inl (.inr ⟨head, forked⟩)
      · obtain ⟨_, _, same⟩ := serves _ _ _ ready
        obtain ⟨rest, head⟩ := head
        cases ahead.symm.trans same
        cases head
        exact .inr ⟨⟨answer, asks⟩, ⟨_, rfl⟩, receivers, ready⟩
    · rintro ((answered | ⟨head, forked⟩) | ⟨⟨answer, asks⟩, head, receivers, ready⟩)
      · exact .inl answered
      · exact .inr ⟨head, .inl forked⟩
      · exact .inr ⟨head, .inr ⟨answer, command, receivers, asks, ready⟩⟩
  | requestStop | reaper =>
    refine ⟨past, recalls, fun phase command => ?_⟩
    rw [or_iff_left (by simp [Asks])]
    rfl
  | signal =>
    refine ⟨past, recalls, fun phase command => ?_⟩
    simp [Asks, Reached, Begun]

end

/-- In this round the kernel is asked for a child for the command of a phase. -/
structure Forks (s : Supervisor) (m : μ) (s' : Supervisor) (m' : μ) (phase : Phase)
    (command : Command) : Prop where
  head : ∃ rest, s.script = .run phase command rest
  ready : ∃ receivers, s.runner = .spawning command .locked receivers
  step : Steps s (.runner (.spawn (.fork (Host.fork m command true).1))) s'
  asked : m' = (Host.fork m command true).2

theorem Forks.reached (h : Forks s m s' m' phase command) (past : List Script.Answer) :
    s'.Reached past phase command := by
  obtain ⟨rest, head⟩ := h.head
  obtain ⟨receivers, ready⟩ := h.ready
  cases Moves.of_step h.step with
  | runner ahead goesOn moves =>
    have forked := (moves.hasForked goesOn.2).2 (.inr ⟨_, command, receivers, rfl, ready⟩)
    exact .inr ⟨⟨rest, head⟩, forked⟩

theorem not_forks : ¬Forks s m s m' phase command := by
  intro h
  obtain ⟨receivers, ready⟩ := h.ready
  have begun := h.reached []
  rw [reached_of_not_forked (by rw [ready]; rfl)] at begun
  cases begun

theorem ne_runner_of_reaperNext {event : Runner.Event} :
    s.reaperNext m ≠ some (.runner event, m') := by
  intro next
  simp only [reaperNext, Option.bind_eq_some_iff, Option.map_eq_some_iff] at next
  obtain ⟨_, _, _, _, same⟩ := next
  cases same

theorem runner_next_of_next {event : Runner.Event} (next : s.next m = some (.runner event, m')) :
    s.runner.next s.table m = some (event, m') := by
  unfold Supervisor.next at next
  split at next
  · cases next
  · split at next
    · split at next
      · cases next
        assumption
      · exact absurd next ne_runner_of_reaperNext
    · exact absurd next ne_runner_of_reaperNext

theorem Asks.forks (h : s.Asks e phase command) (next : s.next m = some (e, m'))
    (step : Steps s e s') : Forks s m s' m' phase command := by
  obtain ⟨⟨answer, rfl⟩, head, receivers, ready⟩ := h
  have asked := runner_next_of_next next
  rw [ready] at asked
  cases asked
  exact ⟨head, ⟨receivers, ready⟩, step, rfl⟩

/-- In the next round the kernel is asked for a child for the command of a phase. -/
def ForksAt (s : Supervisor) (m : μ) (n : Nat) (phase : Phase) (command : Command) : Prop :=
  Forks (rounds n s m).1 (rounds n s m).2 (rounds (n + 1) s m).1 (rounds (n + 1) s m).2 phase
    command

section

variable (recalls : Script.Recalls full s.script past) (staged : s.Staged) (serves : s.Serves)
variable (once : ∀ answers, ((full.follow answers).attempts.map Prod.fst).Nodup)

include recalls staged serves once

theorem reached_taken (taken : s' = s ∨ Steps s e s')
    (asked : ∀ phase command, s.Asks e phase command → s.next m = some (e, m')) :
    ∃ past', Script.Recalls full s'.script past' ∧ ∀ phase command,
      s'.Reached past' phase command ↔
        s.Reached past phase command ∨ Forks s m s' m' phase command := by
  rcases taken with rfl | step
  · exact ⟨past, recalls, fun _ _ => (or_iff_left not_forks).symm⟩
  · obtain ⟨past', recalls', reached⟩ := Moves.reached recalls staged serves once (.of_step step)
    refine ⟨past', recalls', fun phase command => ⟨fun begun => ?_, ?_⟩⟩
    · exact ((reached phase command).1 begun).imp_right fun asks =>
        asks.forks (asked phase command asks) step
    · rintro (before | forks)
      · exact (reached phase command).2 (.inl before)
      · exact forks.reached past'

theorem reached_round (round : s.round m = some (s', m')) :
    ∃ past', Script.Recalls full s'.script past' ∧ ∀ phase command,
      s'.Reached past' phase command ↔
        s.Reached past phase command ∨ Forks s m s' m' phase command := by
  cases Rounds.of_round round with
  | wait =>
    exact reached_taken recalls staged serves once (e := .advance) (.inl rfl)
      fun _ _ asks => nomatch asks.1
  | signal =>
    exact reached_taken recalls staged serves once (take_eq_or_steps s _)
      fun _ _ asks => nomatch asks.1
  | step _ next =>
    exact reached_taken recalls staged serves once (take_eq_or_steps s _) fun _ _ _ => next

end

theorem serves_round (h : s.Staged ∧ s.Serves) (round : s.round m = some (s', m')) :
    s'.Staged ∧ s'.Serves := by
  rcases (Rounds.of_round round).steps with rfl | ⟨e, step⟩
  · exact h
  · exact ⟨h.1.moves (.of_step step), h.2.moves h.1 (.of_step step)⟩

variable {config : Config} {version : String} {self : Pid} {n : Nat} {result : Result}

theorem reached_rounds (config : Config) (version : String) (self : Pid) (m : μ) (n : Nat) :
    ∃ past, Script.Recalls (.ofConfig config version self)
      (rounds n (start config version self) m).1.script past ∧ ∀ phase command,
        (rounds n (start config version self) m).1.Reached past phase command ↔
          ∃ k < n, ForksAt (start config version self) m k phase command := by
  induction n with
  | zero =>
    refine ⟨[], .start _, fun phase command => ?_⟩
    rw [reached_of_not_forked rfl]
    simp
  | succ n ih =>
    obtain ⟨past, recalls, reached⟩ := ih
    simp only [Nat.exists_lt_succ_right, ← reached]
    unfold ForksAt
    rw [rounds_succ]
    obtain ⟨staged, serves⟩ := keeps_rounds (P := fun s (_ : μ) => s.Staged ∧ s.Serves)
      (m := m) serves_round
      ⟨.start config version self, serves_of_isIdle (s := start config version self) ⟨_, rfl⟩⟩ n
    rcases rounds_one (rounds n (start config version self) m).1
      (rounds n (start config version self) m).2 with same | round
    · rw [same]
      exact ⟨past, recalls, fun _ _ => (or_iff_left not_forks).symm⟩
    · exact reached_round recalls staged serves (fun _ => Script.nodup_follow config version self)
        round

/-- By the end the kernel has been asked for a child for each command of the course, and for no
other one. -/
theorem forks_iff_attempted (m : μ)
    (returned : (rounds n (start config version self) m).1.result? = some result) :
    ∃ answers, ((Script.ofConfig config version self).follow answers).result = result ∧
      ∀ phase command, (∃ k < n, ForksAt (start config version self) m k phase command) ↔
        (phase, command) ∈ ((Script.ofConfig config version self).follow answers).attempts := by
  obtain ⟨past, recalls, reached⟩ := reached_rounds config version self m n
  obtain ⟨answers, agrees⟩ := recalls.consistent
  have done := script_of_result? returned
  have orderly := orderly_rounds (Orderly.start config version self) m n
  have idle := (orderly.staged.of_done done).2
  refine ⟨answers, ?_, fun phase command => ?_⟩
  · rw [recalls.result answers agrees, done, Script.follow]
  · rw [← reached, reached_of_not_forked idle.hasForked, recalls.attempts answers agrees, done]
    simp [Script.follow]

theorem registers_before_forks {phase : Phase} {command : Command}
    (forks : ForksAt (start config version self) m n phase command) :
    (∃ k < n, RegistersAt (start config version self) m k) ↔
      (config.subreaper && self != 1) = true := by
  obtain ⟨rest, head⟩ := forks.head
  obtain ⟨es, run⟩ := run_rounds n (start config version self) m
  rw [← adoptsOrphans_rounds rfl, (adopting_of_run run).same (.inl ⟨phase, command, rest, head⟩)]

/-- The kernel has given a child for the command at the head of the script. -/
structure Born (s : Supervisor) (phase : Phase) (command : Command) (pid : Pid) : Prop where
  head : ∃ rest, s.script = .run phase command rest
  ready : ∃ receivers, s.runner = .spawning command (.forked pid) receivers

/-- In this round the kernel is asked to execute the command in the child. -/
structure Executes (s : Supervisor) (m : μ) (s' : Supervisor) (m' : μ) (phase : Phase)
    (command : Command) (pid : Pid) : Prop extends Born s phase command pid where
  step : Steps s (.runner (.spawn (.exec (Host.exec m pid command).1))) s'
  asked : m' = (Host.exec m pid command).2

def ExecutesAt (s : Supervisor) (m : μ) (n : Nat) (phase : Phase) (command : Command)
    (pid : Pid) : Prop :=
  Executes (rounds n s m).1 (rounds n s m).2 (rounds (n + 1) s m).1 (rounds (n + 1) s m).2 phase
    command pid

theorem Forks.born {pid : Pid} (h : Forks s m s' m' phase command)
    (given : (Host.fork m command true).1 = .ok pid) : s'.Born phase command pid := by
  obtain ⟨rest, head⟩ := h.head
  obtain ⟨receivers, ready⟩ := h.ready
  have step := h.step
  simp only [Steps, Supervisor.step, runnerStep, head, ready, given, Runner.step, Spawning.step,
    Option.map_some, Option.some.injEq] at step
  subst step
  exact ⟨⟨rest, rfl⟩, ⟨receivers, rfl⟩⟩

theorem Born.round {pid : Pid} (h : s.Born phase command pid)
    (round : s.round m = some (s', m')) :
    s'.Born phase command pid ∨ Executes s m s' m' phase command pid := by
  obtain ⟨⟨rest, head⟩, receivers, ready⟩ := h
  cases Rounds.of_round round with
  | wait => exact .inl ⟨⟨rest, head⟩, receivers, ready⟩
  | signal =>
    refine .inl ⟨⟨rest, head⟩, ?_⟩
    simp [take, Supervisor.step, ready, Runner.arrive]
  | @step e _ _ next =>
    rcases take_eq_or_steps s e with same | step
    · rw [same]
      exact .inl ⟨⟨rest, head⟩, receivers, ready⟩
    rcases next_cases next with ⟨rfl, _, advances⟩ | ⟨r, rfl⟩ | ⟨r, rfl⟩
    · simp [advance, head, ready] at advances
    · have asked := runner_next_of_next next
      rw [ready] at asked
      cases asked
      exact .inr ⟨⟨⟨rest, head⟩, receivers, ready⟩, step, rfl⟩
    · generalize s.take (.reaper r) = after at step
      cases Moves.of_step step with
      | reaper => exact .inl ⟨⟨rest, head⟩, receivers, ready⟩

/-- A child that the kernel has given executes the command before there is a result. -/
theorem executes_of_forks {s : Supervisor} {m : μ} {k : Nat} {pid : Pid}
    (forks : ForksAt s m k phase command)
    (given : (Host.fork (rounds k s m).2 command true).1 = .ok pid)
    (returned : (rounds n s m).1.result? = some result) :
    ∃ j, k < j ∧ j < n ∧ ExecutesAt s m j phase command pid := by
  have unfinished {t : Supervisor} {rest : Except Failure ExitStatus → Script}
      (head : t.script = .run phase command rest) : t.result? ≠ some result := by
    intro returned
    cases head.symm.trans (script_of_result? returned)
  have early : k < n := by
    by_contra late
    obtain ⟨rest, head⟩ := forks.head
    refine unfinished head ?_
    rw [rounds_of_result returned (by omega), returned]
  by_contra never
  -- As long as it has not executed the command, the child is still the one just given.
  have born : ∀ j, k + 1 ≤ j → j ≤ n → (rounds j s m).1.Born phase command pid := by
    intro j later
    induction j, later using Nat.le_induction with
    | base => exact fun _ => Forks.born forks given
    | succ j later ih =>
      intro before
      have born := ih (by omega)
      have quiet : ¬ExecutesAt s m j phase command pid :=
        fun executes => never ⟨j, by omega, by omega, executes⟩
      rw [ExecutesAt, rounds_succ] at quiet
      rw [rounds_succ]
      rcases rounds_one (rounds j s m).1 (rounds j s m).2 with same | round
      · rwa [same]
      · exact (born.round round).resolve_right quiet
  have last := born n early (Nat.le_refl n)
  obtain ⟨rest, head⟩ := last.head
  exact unfinished head returned

end Supervisor

end PidOne
