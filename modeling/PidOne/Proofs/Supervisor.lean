import PidOne.Proofs.Phases
import PidOne.Proofs.Reaper
import PidOne.Proofs.Runner
import PidOne.Supervisor

/-!
# The steps of a supervisor

Each step that the script, the runner and the reaper can take. What is left of the script says
which of the two others are there: the reaper while the script comes to commands, and the runner
is busy only with the command at its head.
-/

namespace PidOne

namespace Supervisor

inductive Moves (s : Supervisor) : Event → Supervisor → Prop
  | log (ahead : s.script = .log line rest) :
    Moves s .advance { s with script := rest, log := s.log ++ [line] }
  | adoptOrphans (ahead : s.script = .adoptOrphans rest) :
    Moves s .advance { s with script := rest, adoptsOrphans := true }
  | receiveSignals (ahead : s.script = .receiveSignals rest) :
    Moves s .advance { s with script := rest, runner := s.runner.register }
  | startReaper (ahead : s.script = .startReaper interval rest) :
    Moves s .advance { s with script := rest, reaper := some { interval } }
  | begin (ahead : s.script = .run phase command rest) (idle : s.runner = .idle receivers) :
    Moves s .advance { s with runner := .spawning command .queued (receivers.getD {}) }
  | finish (ahead : s.script = .run phase command rest)
    (finished : s.runner = .finished answer receivers) :
    Moves s .advance { s with script := rest answer, runner := .idle (some receivers) }
  | requestStop (ahead : s.script = .stopReaper rest) (there : s.reaper = some r) :
    Moves s .advance { s with reaper := some r.requestStop }
  | stopped (ahead : s.script = .stopReaper rest)
    (ended : ∀ r, s.reaper = some r → r.hasEnded = true) :
    Moves s .advance { s with script := rest, reaper := none }
  | runner (ahead : s.script = .run phase command rest)
    (goesOn : (∀ command, e ≠ .begin command) ∧ e ≠ .return)
    (moves : Runner.Moves mainTask s.table s.runner e r' t') :
    Moves s (.runner e) { s with
      runner := r', table := t', log := s.log ++ runnerLines phase s.runner e }
  | reaper (there : s.reaper = some r)
    (moves : Reaper.Moves reaperTask s.table r e r' t') :
    Moves s (.reaper e) { s with reaper := some r', table := t', log := s.log ++ reaperLines e }
  | signal : Moves s (.signal x) { s with
      runner := s.runner.arrive x, reaper := s.reaper.map (·.arrive x) }

variable {s s' : Supervisor} {e : Event}

theorem Moves.of_advance (h : s.advance = some s') : Moves s .advance s' := by
  unfold Supervisor.advance at h
  split at h
  · cases h
  · cases h
    exact .log ‹_›
  · cases h
    exact .adoptOrphans ‹_›
  · cases h
    exact .receiveSignals ‹_›
  · cases h
    exact .startReaper ‹_›
  · rename_i ahead
    split at h
    · rename_i idle
      simp only [idle, Runner.step, Option.map_some, Option.some.injEq] at h
      subst h
      exact .begin ahead idle
    · rename_i finished
      simp only [finished, Runner.step, Option.map_some, Option.some.injEq] at h
      subst h
      exact .finish ahead finished
    · cases h
  · rename_i rest ahead
    split at h
    · rename_i none
      cases h
      have stopped : Moves s .advance { s with script := rest, reaper := .none } :=
        .stopped ahead (by simp [none])
      rwa [← none] at stopped
    · rename_i reaper there
      split at h
      · cases h
        refine .stopped ahead fun other there' => ?_
        rwa [← Option.some.inj (there.symm.trans there')]
      · split at h <;> cases h
        exact .requestStop ahead there

theorem Moves.of_runnerStep {event : Runner.Event} (h : s.runnerStep event = some s') :
    Moves s (.runner event) s' := by
  unfold Supervisor.runnerStep at h
  split at h
  · cases h
  · cases h
  · simp only [Option.map_eq_some_iff] at h
    obtain ⟨⟨runner', table'⟩, step, rfl⟩ := h
    exact .runner ‹_› ⟨‹_›, ‹_›⟩ (Runner.Moves.of_step step)
  · cases h

theorem Moves.of_step (h : s.step e = some s') : Moves s e s' := by
  cases e with
  | advance => exact .of_advance h
  | runner e => exact .of_runnerStep h
  | reaper e =>
    simp only [Supervisor.step, reaperStep, Option.bind_eq_some_iff, Option.map_eq_some_iff] at h
    obtain ⟨reaper, there, ⟨reaper', table'⟩, step, rfl⟩ := h
    exact .reaper there (Reaper.Moves.of_step step)
  | signal =>
    cases h
    exact .signal

end Supervisor

namespace Script

/-- Only lines and the result are left. -/
def Closing : Script → Prop
  | .done _ => True
  | .log _ rest => rest.Closing
  | _ => False

/-- Commands are left, and the end of the reaper after them. -/
def Running : Script → Prop
  | .log _ rest => rest.Running
  | .run _ _ rest => ∀ answer, (rest answer).Running
  | .stopReaper rest => rest.Closing
  | _ => False

/-- The start of the reaper is left, and commands after it. -/
def Opening : Script → Prop
  | .log _ rest | .adoptOrphans rest | .receiveSignals rest => rest.Opening
  | .startReaper _ rest => rest.Running
  | _ => False

theorem opening_ofConfig (config : Config) (version : String) (self : Pid) :
    (ofConfig config version self).Opening := by
  have phases : (phases config fun result =>
      .stopReaper <| .log .reaperStopped <| .log (.exiting result.exitCode) <|
        .done result).Running :=
    phases_of (fun _ _ _ => id) (phase_of (fun _ _ _ => id) fun _ _ _ => id) config
      fun _ => trivial
  unfold ofConfig
  split <;> exact phases

end Script

def Runner.IsIdle (r : Runner) : Prop := ∃ receivers, r = .idle receivers

theorem Runner.IsIdle.register {r : Runner} (h : r.IsIdle) : r.register.IsIdle := by
  obtain ⟨receivers, rfl⟩ := h
  cases receivers <;> exact ⟨_, rfl⟩

theorem Runner.IsIdle.arrive {r : Runner} (h : r.IsIdle) (s : Signal) : (r.arrive s).IsIdle := by
  obtain ⟨receivers, rfl⟩ := h
  exact ⟨_, rfl⟩

namespace Supervisor

/-- What is left of the script says which of the runner and the reaper are there. -/
inductive Staged (s : Supervisor) : Prop
  | opening (ahead : s.script.Opening) (gone : s.reaper = none) (idle : s.runner.IsIdle)
  | running (ahead : s.script.Running) (there : s.reaper = some r)
    (needed : r.stopRequested = true → ∃ rest, s.script = .stopReaper rest)
    (asked : r.hasEnded = true → r.stopRequested = true)
    (busy : s.runner.IsIdle ∨ ∃ phase command rest, s.script = .run phase command rest)
  | closing (ahead : s.script.Closing) (gone : s.reaper = none) (idle : s.runner.IsIdle)

theorem Staged.start (config : Config) (version : String) (self : Pid) :
    (start config version self).Staged :=
  .opening (Script.opening_ofConfig config version self) rfl ⟨_, rfl⟩

variable {s s' : Supervisor} {e : Event}

theorem Staged.moves (h : s.Staged) (moves : Moves s e s') : s'.Staged := by
  -- Only the start and the end of the reaper lead from one stage to the next.
  cases h with
  | opening ahead gone idle =>
    cases moves with
    | log head | adoptOrphans head =>
      rw [head] at ahead
      exact .opening ahead gone idle
    | receiveSignals head =>
      rw [head] at ahead
      exact .opening ahead gone idle.register
    | startReaper head =>
      rw [head] at ahead
      exact .running ahead rfl nofun nofun (.inl idle)
    | signal => exact .opening ahead (by simp [gone]) (idle.arrive _)
    | reaper there => cases gone.symm.trans there
    | _ head =>
      rw [head] at ahead
      exact ahead.elim
  | running ahead there needed asked busy =>
    cases moves with
    | log head =>
      rw [head] at ahead
      exact .running ahead there (by grind) asked (.inl (by grind))
    | begin head =>
      exact .running ahead there needed asked (.inr ⟨_, _, _, head⟩)
    | finish head =>
      rw [head] at ahead
      exact .running (ahead _) there (by grind) asked (.inl ⟨_, rfl⟩)
    | requestStop head there' =>
      exact .running ahead rfl (fun _ => ⟨_, head⟩) (fun _ => rfl) (.inl (by grind))
    | stopped head =>
      rw [head] at ahead
      exact .closing ahead rfl (by grind)
    | runner head =>
      exact .running ahead there needed asked (.inr ⟨_, _, _, head⟩)
    | reaper there' moves =>
      obtain rfl := Option.some.inj (there.symm.trans there')
      refine .running ahead rfl ?_ ?_ busy
      · rwa [moves.stopRequested]
      · rw [moves.stopRequested]
        exact moves.hasEnded
    | signal =>
      refine .running ahead (by rw [there]; rfl) ?_ ?_ ?_
      · rwa [Reaper.arrive_stopRequested]
      · simpa [Reaper.hasEnded, Reaper.arrive_stopRequested, Reaper.arrive_activity] using asked
      · exact busy.imp (·.arrive _) id
    | _ head =>
      rw [head] at ahead
      exact ahead.elim
  | closing ahead gone idle =>
    cases moves with
    | log head =>
      rw [head] at ahead
      exact .closing ahead gone idle
    | signal => exact .closing ahead (by simp [gone]) (idle.arrive _)
    | reaper there => cases gone.symm.trans there
    | _ head =>
      rw [head] at ahead
      exact ahead.elim

theorem Staged.head_of_busy (h : s.Staged) (busy : ¬s.runner.IsIdle) :
    ∃ phase command rest, s.script = .run phase command rest := by
  cases h with
  | opening _ _ idle | closing _ _ idle => exact absurd idle busy
  | running _ _ _ _ either => exact either.resolve_left busy

theorem Staged.idle (h : s.Staged)
    (other : ∀ phase command rest, s.script ≠ .run phase command rest) : s.runner.IsIdle := by
  refine Classical.byContradiction fun busy => ?_
  obtain ⟨phase, command, rest, head⟩ := h.head_of_busy busy
  exact other phase command rest head

theorem Staged.reaper_of_head (h : s.Staged) {phase : Phase} {command : Command}
    {rest : Except Failure ExitStatus → Script} (head : s.script = .run phase command rest) :
    ∃ r, s.reaper = some r ∧ r.stopRequested = false ∧ r.hasEnded = false := by
  cases h with
  | opening ahead | closing ahead =>
    rw [head] at ahead
    exact ahead.elim
  | @running r _ there needed asked =>
    have goesOn : r.stopRequested = false := by grind
    exact ⟨r, there, goesOn, by grind⟩

theorem script_of_result? {result : Result} (h : s.result? = some result) :
    s.script = .done result := by
  unfold Supervisor.result? at h
  split at h
  · cases h
    assumption
  · cases h

theorem Staged.of_done (h : s.Staged) {result : Result} (done : s.script = .done result) :
    s.reaper = none ∧ s.runner.IsIdle := by
  cases h with
  | opening ahead | running ahead =>
    rw [done] at ahead
    exact ahead.elim
  | closing _ gone idle => exact ⟨gone, idle⟩

/-- With the result only signals come in any more. -/
theorem Staged.only_signals (h : s.Staged) {result : Result} (done : s.script = .done result)
    (moves : Moves s e s') : (∃ signal, e = .signal signal) ∧ s'.script = .done result := by
  cases moves with
  | signal => exact ⟨⟨_, rfl⟩, done⟩
  | reaper there => cases (h.of_done done).1.symm.trans there
  | _ head => cases done.symm.trans head

end Supervisor

end PidOne
