import PidOne.Proofs.Forwarder
import PidOne.Proofs.Table.Progress
import PidOne.Runner

/-!
# The steps of a runner

Each step that a runner can take, and what it is to the receivers. A runner that has them never lets
go of them, also when a command does not start.
-/

namespace PidOne

inductive Runner.Moves (task : TaskId) (t : Table) : Runner → Runner.Event → Runner → Table → Prop
  | begin : Moves task t (.idle receivers) (.begin command)
    (.spawning command .queued (receivers.getD {})) t
  | spawn (moves : Spawning.Moves task t progress e progress' t') :
    Moves task t (.spawning command progress receivers) (.spawn e)
      (.spawning command progress' receivers) t'
  | launch : Moves task t (.spawning command (.done (.ok child)) receivers) .launch
    (.waiting child { group := child.pid, receivers }) t
  | fail : Moves task t (.spawning command (.done (.error cause)) receivers) .launch
    (.finished (.error (.spawnFailed command.program cause)) receivers) t
  | receive (answers : t.poll child = some answer) :
    Moves task t (.waiting child relay) .receive (.detaching answer relay.requestStop) t
  | relay (moves : relay.Moves e relay') :
    Moves task t (.waiting child relay) (.relay e) (.waiting child relay') t
  | wind (moves : relay.Moves e relay') :
    Moves task t (.detaching answer relay) (.relay e) (.detaching answer relay') t
  | detach (finished : relay.finished = true) :
    Moves task t (.detaching answer relay) .detach (.finished answer relay.receivers) t
  | rest : Moves task t (.finished answer receivers) .return (.idle (some receivers)) t

namespace Runner

/-- The receivers of a runner, and what they are bound to. -/
def forwarder : Runner → Forwarder
  | .idle none => .unregistered
  | .idle (some receivers) => .detached receivers
  | .spawning _ _ receivers | .finished _ receivers => .detached receivers
  | .waiting _ relay | .detaching _ relay => .attached relay

/-- What a step of a runner is to its receivers. The start of a command is nothing to them. -/
def signalled? (r : Runner) : Event → Option Forwarder.Event
  | .begin _ => if r.forwarder matches .unregistered then some .register else none
  | .launch => r.launched?.map (.attach ·.pid)
  | .receive => some .requestStop
  | .relay e => some (.relay e)
  | .detach => some .detach
  | .spawn _ | .return => none

/-- What a runner does, and what is done to it. -/
inductive Act
  | register
  | arrive (signal : Signal)
  | step (event : Event)

/-- A runner next to the record of all that has been done to its receivers. -/
inductive Records : Runner × List Forwarder.Event → Act → Runner × List Forwarder.Event → Prop
  | register : Records (r, es) .register
    (r.register, es ++ if r.forwarder matches .unregistered then [.register] else [])
  | arrive : Records (r, es) (.arrive s) (r.arrive s, es ++ [.arrive s])
  | step (task : TaskId) (t : Table) (step : r.step task t e = some (r', t')) :
    Records (r, es) (.step e) (r', es ++ (r.signalled? e).toList)

variable {task : TaskId} {t t' : Table} {r r' : Runner} {e : Event} {s : Signal}

theorem Moves.of_step (h : r.step task t e = some (r', t')) : Moves task t r e r' t' := by
  unfold Runner.step at h
  split at h
  · cases h
    exact .begin
  · simp only [Option.map_eq_some_iff, Prod.mk.injEq] at h
    obtain ⟨⟨progress', t''⟩, step, rfl, rfl⟩ := h
    exact .spawn (Spawning.step_eq_some.1 step)
  · cases h
    exact .launch
  · cases h
    exact .fail
  · simp only [Option.map_eq_some_iff, Prod.mk.injEq] at h
    obtain ⟨answer, answers, rfl, rfl⟩ := h
    exact .receive answers
  · simp only [Option.map_eq_some_iff, Prod.mk.injEq] at h
    obtain ⟨relay', step, rfl, rfl⟩ := h
    exact .relay (Relay.step_eq_some.1 step)
  · simp only [Option.map_eq_some_iff, Prod.mk.injEq] at h
    obtain ⟨relay', step, rfl, rfl⟩ := h
    exact .wind (Relay.step_eq_some.1 step)
  · split at h
    · cases h
      exact .detach ‹_›
    · cases h
  · cases h
    exact .rest
  · cases h

theorem Moves.forwarder (h : Moves task t r e r' t') :
    match r.signalled? e with
    | some event => Forwarder.Moves r.forwarder event r'.forwarder
    | none => r'.forwarder = r.forwarder := by
  cases h with
  | @begin receivers =>
    cases receivers with
    | none => exact .register
    | some => rfl
  | launch => exact .attach
  | receive => exact .requestStop
  | relay moves | wind moves => exact .relay moves
  | detach finished => exact .detach finished
  | spawn | fail | rest => rfl

theorem arrive_forwarder (r : Runner) (s : Signal) :
    (r.arrive s).forwarder = r.forwarder.arrive s := by
  cases r with
  | idle receivers => cases receivers <;> rfl
  | _ => rfl

theorem register_forwarder (r : Runner) :
    r.register.forwarder = r.forwarder ∨
      r.forwarder = .unregistered ∧ r.register.forwarder = .detached {} := by
  cases r with
  | idle receivers =>
    cases receivers with
    | none => exact .inr ⟨rfl, rfl⟩
    | some => exact .inl rfl
  | _ => exact .inl rfl

theorem Moves.registered (h : Moves task t r e r' t') : r'.forwarder ≠ .unregistered := by
  cases h <;> exact nofun

/-- A runner is bound to a group since it has launched the command, and meanwhile it starts none. -/
theorem Moves.group? (h : Moves task t r e r' t') {g : Pid}
    (bound : r'.forwarder.group? = some g) :
    (r.forwarder.group? = some g ∧ ∀ event, e ≠ .spawn event) ∨
      ∃ child relay, e = .launch ∧ r' = .waiting child relay := by
  cases h with
  | launch => exact .inr ⟨_, _, rfl, rfl⟩
  | receive => exact .inl ⟨bound, nofun⟩
  | relay moves | wind moves =>
    refine .inl ⟨?_, nofun⟩
    cases moves <;> exact bound
  | begin | spawn | fail | detach | rest => cases bound

theorem Moves.launched {child : Handle} {relay : Relay}
    (h : Moves task t r .launch (.waiting child relay) t') : relay.group = child.pid := by
  cases h
  rfl

def Event.Sends (s : Signal) : Event → Prop
  | .relay e => e.Sends s
  | _ => False

/-- Only by sending it a runner stops holding a signal. -/
theorem Moves.holds_iff (h : Moves task t r e r' t') :
    r'.forwarder.Holds s ↔ r.forwarder.Holds s ∧ ¬e.Sends s := by
  cases h with
  | @begin receivers =>
    cases receivers <;> simp [Runner.forwarder, Forwarder.Holds, Event.Sends]
  | relay moves | wind moves => exact moves.held_iff
  | _ => simp [Runner.forwarder, Forwarder.Holds, Event.Sends, Relay.requestStop]

/-- A runner asks the relay to stop before it detaches it, and its relay is calm. -/
def Sound : Runner → Prop
  | .waiting _ relay => relay.Calm
  | .detaching _ relay => relay.Calm ∧ relay.stopRequested = true
  | _ => True

theorem Sound.register (h : r.Sound) : r.register.Sound := by
  cases r with
  | idle receivers => cases receivers <;> trivial
  | _ => exact h

theorem Sound.arrive (h : r.Sound) (s : Signal) : (r.arrive s).Sound := by
  cases r with
  | waiting child relay => exact Relay.Calm.arrive h s
  | detaching answer relay => exact ⟨h.1.arrive s, Relay.arrive_stopRequested.trans h.2⟩
  | _ => trivial

theorem Moves.sound (moves : Moves task t r e r' t') (h : r.Sound) : r'.Sound := by
  cases moves with
  | launch => exact fun asleep => nomatch asleep
  | receive => exact ⟨fun asleep => (nomatch asleep), rfl⟩
  | relay moves => exact moves.calm
  | wind moves => exact ⟨moves.calm, moves.stopRequested.trans h.2⟩
  | begin | spawn | fail | detach | rest => trivial

/-- Only while it waits for a command does a runner have signals sent. -/
theorem Moves.waiting_of_sends (moves : Moves task t r e r' t') (h : r.Sound) (sends : e.Sends s) :
    ∃ child relay, r = .waiting child relay := by
  cases moves with
  | relay => exact ⟨_, _, rfl⟩
  | wind moves =>
    cases moves with
    | send _ _ goesOn => exact absurd (goesOn.symm.trans h.2) nofun
    | stop | sleep => cases sends
  | _ => cases sends

theorem Records.run_forwarder {l l' : Runner × List Forwarder.Event} {a : Act}
    (h : Records l a l') (before : Run Forwarder.Steps .unregistered l.2 l.1.forwarder) :
    Run Forwarder.Steps .unregistered l'.2 l'.1.forwarder := by
  cases h with
  | @register r =>
    refine before.append ?_
    cases r with
    | idle receivers =>
      cases receivers with
      | none => exact .single rfl
      | some => exact .nil
    | _ => exact .nil
  | arrive =>
    refine before.append (.single ?_)
    rw [arrive_forwarder, Forwarder.steps_iff]
    exact .arrive
  | @step _ _ r _ e _ _ step =>
    refine before.append ?_
    have moves := (Moves.of_step step).forwarder
    cases signalled : r.signalled? e with
    | none =>
      rw [signalled] at moves
      exact Run.nil_iff.2 moves.symm
    | some event =>
      rw [signalled] at moves
      exact .single (Forwarder.steps_iff.2 moves)

end Runner

/-- Signals are accounted for in any use of a forwarder, and in particular in that which a runner
makes of it from one command to the next, be they started or not. -/
theorem signals_accounted :
    (∀ es f, Run Forwarder.Steps .unregistered es f → Forwarder.Accounting es f) ∧
    ∀ acts r es, Run Runner.Records (.idle none, []) acts (r, es) →
      Forwarder.Accounting es r.forwarder := by
  refine ⟨fun _ _ => .of_run, fun acts r es run => .of_run ?_⟩
  exact run.keeps (P := fun l => Run Forwarder.Steps .unregistered l.2 l.1.forwarder)
    (fun before records => records.run_forwarder before) .nil

/-- A signal comes too late for the first group, and one is held while a command does not start. -/
theorem signals_accounted_from_group_to_group :
    (∃ es f, Run Forwarder.Steps .unregistered es f ∧ Forwarder.Accounting es f ∧
      .relay (.send 10 .delivered) ∈ es ∧ f.group? = some 8) ∧
    ∃ acts r es, Run Runner.Records (.idle none, []) acts (r, es) ∧
      Forwarder.Accounting es r.forwarder ∧ r.forwarder.Holds 15 ∧ r matches .finished (.error _) _ := by
  have run : ∃ f, Run Forwarder.Steps .unregistered [.register, .arrive 15, .attach 7,
      .relay (.send 15 .delivered), .requestStop, .arrive 10, .relay .stop, .detach, .attach 8,
      .relay (.send 10 .delivered)] f ∧ f.group? = some 8 := by
    refine Run.exists_cons rfl (Run.exists_cons rfl (Run.exists_cons rfl (Run.exists_cons rfl ?_)))
    refine Run.exists_cons rfl (Run.exists_cons rfl (Run.exists_cons rfl (Run.exists_cons rfl ?_)))
    exact Run.exists_cons rfl ⟨_, .single rfl, rfl⟩
  have runner : ∃ l, Run Runner.Records (.idle none, []) [.register, .arrive 15,
      .step (.begin ⟨"true", []⟩), .step (.spawn .lock), .step (.spawn (.fork (.error (.errno 11)))),
      .step (.spawn .unlock), .step .launch] l ∧
      l.1.forwarder.Holds 15 ∧ l.1 matches .finished (.error _) _ := by
    refine Run.exists_cons .register (Run.exists_cons .arrive ?_)
    refine Run.exists_cons (.step 0 {} rfl) ?_
    refine Run.exists_cons (.step 0 {} rfl) ?_
    refine Run.exists_cons (.step 0 {} rfl) ?_
    refine Run.exists_cons (.step 0 { holder := some 0 } rfl) ?_
    exact ⟨_, .single (.step 0 {} rfl), rfl, rfl⟩
  obtain ⟨f, run, group⟩ := run
  obtain ⟨⟨r, es⟩, runner, holds, failed⟩ := runner
  exact ⟨⟨_, f, run, signals_accounted.1 _ _ run, by simp, group⟩,
    _, r, es, runner, signals_accounted.2 _ _ _ runner, holds, failed⟩

end PidOne
