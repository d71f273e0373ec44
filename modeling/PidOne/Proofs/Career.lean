import Mathlib.Logic.Function.Basic
import PidOne.Proofs.Runner
import PidOne.Proofs.Table.Work

/-!
# A runner from call to call

A runner, the table at which it starts its commands, and everybody else there. Its receivers are
registered once and for all.
-/

namespace PidOne

def Forwarder.Event.isRegister : Forwarder.Event → Bool
  | .register => true
  | _ => false

namespace Runner

def isInside : Runner → Bool
  | .spawning _ progress _ => progress.isInside
  | _ => false

def isRegistered (r : Runner) : Bool := !(r.forwarder matches .unregistered)

variable {task : TaskId} {t t' : Table} {r r' : Runner} {e : Event} {s : Signal}

theorem Moves.inside (h : Moves task t r e r' t')
    (before : r.isInside = true ↔ t.holder = some task) :
    (r'.isInside = true ↔ t'.holder = some task) ∧
      ∀ other ≠ task, t'.holder = some other ↔ t.holder = some other := by
  cases h with
  | spawn moves => exact moves.inside before
  | begin | launch | fail | receive | relay | wind | detach | rest =>
    exact ⟨before, fun _ _ => Iff.rfl⟩

@[simp] theorem isInside_register (r : Runner) : r.register.isInside = r.isInside := by
  cases r with
  | idle receivers => cases receivers <;> rfl
  | _ => rfl

@[simp] theorem isInside_arrive (r : Runner) (s : Signal) :
    (r.arrive s).isInside = r.isInside := by
  cases r <;> rfl

@[simp] theorem isRegistered_arrive (r : Runner) (s : Signal) :
    (r.arrive s).isRegistered = r.isRegistered := by
  cases r with
  | idle receivers => cases receivers <;> rfl
  | _ => rfl

@[simp] theorem isRegistered_register (r : Runner) : r.register.isRegistered = true := by
  cases r with
  | idle receivers => cases receivers <;> rfl
  | _ => rfl

theorem Moves.isRegistered (h : Moves task t r e r' t') : r'.isRegistered = true := by
  cases h <;> rfl

/-- Whoever goes on without receivers is about to begin. -/
theorem Moves.isRegistered_or_begin (h : Moves task t r e r' t') :
    r.isRegistered = true ∨ ∃ command, e = .begin command := by
  cases h with
  | begin => exact .inr ⟨_, rfl⟩
  | _ => exact .inl rfl

theorem Moves.registers (h : Moves task t r e r' t') :
    (r.signalled? e).toList.countP Forwarder.Event.isRegister = (!r.isRegistered).toNat := by
  cases h with
  | @begin receivers => cases receivers <;> rfl
  | _ => rfl

theorem Moves.keeps (h : Moves task t r e r' t') : .drop ∉ (r.signalled? e).toList := by
  cases h with
  | @begin receivers => cases receivers <;> simp [signalled?, Runner.forwarder]
  | _ => simp [signalled?, launched?]

end Runner

namespace Career

inductive Event
  | act (act : Runner.Act)
  | other (task : TaskId) (event : Work.Event)
  | drop (handle : Handle)

/-- Whether this asks for receivers, be they there already or not. -/
def Event.asks : Event → Bool
  | .act .register | .act (.step (.begin _)) => true
  | _ => false

end Career

structure Career where
  runner : Runner := .idle none
  /-- All that has been done to the receivers. -/
  record : List Forwarder.Event := []
  table : Table := {}
  others : TaskId → Work := fun _ => .idle

namespace Career

inductive Step (self : TaskId) (s : Career) : Event → Career → Prop
  | register (idle : s.runner = .idle receivers) :
    Step self s (.act .register) { s with
      runner := s.runner.register
      record := s.record ++ if s.runner.forwarder matches .unregistered then [.register] else [] }
  | arrive : Step self s (.act (.arrive signal)) { s with
      runner := s.runner.arrive signal
      record := s.record ++ [.arrive signal] }
  | step (step : s.runner.step self s.table e = some (r', t')) :
    Step self s (.act (.step e)) { s with
      runner := r'
      record := s.record ++ (s.runner.signalled? e).toList
      table := t' }
  | other (other : task ≠ self) (step : (s.others task).step task s.table e = some (w', t')) :
    Step self s (.other task e)
      { s with table := t', others := Function.update s.others task w' }
  | drop : Step self s (.drop handle) { s with table := s.table.drop handle }

variable {self : TaskId} {s s' s₁ s₂ : Career} {e : Event} {es : List Event}

theorem Step.deterministic (first : Step self s e s₁) (second : Step self s e s₂) : s₁ = s₂ := by
  cases first with
  | register | arrive | drop =>
    cases second
    rfl
  | step step =>
    cases second with
    | step step' =>
      cases step.symm.trans step'
      rfl
  | other _ step =>
    cases second with
    | other _ step' =>
      cases step.symm.trans step'
      rfl

theorem run_deterministic (first : Run (Step self) s es s₁) (second : Run (Step self) s es s₂) :
    s₁ = s₂ :=
  Run.deterministic (fun step step' => step.deterministic step') first second

theorem Step.isRegistered (h : Step self s e s') :
    s'.runner.isRegistered = (s.runner.isRegistered || e.asks) := by
  cases h with
  | register | arrive => simp [Event.asks]
  | step step =>
    have moves := Runner.Moves.of_step step
    rw [moves.isRegistered]
    rcases moves.isRegistered_or_begin with registered | ⟨command, rfl⟩
    · rw [registered, Bool.true_or]
    · rw [Event.asks, Bool.or_true]
  | other | drop => exact (Bool.or_false _).symm

/-- The record of a runner: it is what has been done to the receivers, and there are receivers if
they have been registered, which is once. -/
structure Kept (s : Career) : Prop where
  faithful : Run Forwarder.Steps .unregistered s.record s.runner.forwarder
  registrations : s.record.countP Forwarder.Event.isRegister = s.runner.isRegistered.toNat
  undropped : .drop ∉ s.record

theorem Kept.start : Kept {} := ⟨.nil, rfl, nofun⟩

theorem Kept.step (h : s.Kept) (step : Step self s e s') : s'.Kept := by
  cases step with
  | register =>
    refine ⟨Runner.Records.run_forwarder .register h.faithful, ?_, ?_⟩
    · rw [List.countP_append, h.registrations, Runner.isRegistered_register, Runner.isRegistered]
      split <;> simp_all [Forwarder.Event.isRegister]
    · rw [List.mem_append, not_or]
      refine ⟨h.undropped, ?_⟩
      split <;> simp
  | arrive =>
    refine ⟨Runner.Records.run_forwarder .arrive h.faithful, ?_, ?_⟩
    · simp [List.countP_append, h.registrations, Forwarder.Event.isRegister]
    · simp [h.undropped]
  | step step =>
    have moves := Runner.Moves.of_step step
    refine ⟨Runner.Records.run_forwarder (.step self s.table step) h.faithful, ?_, ?_⟩
    · rw [List.countP_append, h.registrations, moves.registers, moves.isRegistered]
      cases s.runner.isRegistered <;> rfl
    · rw [List.mem_append, not_or]
      exact ⟨h.undropped, moves.keeps⟩
  | other | drop => exact ⟨h.faithful, h.registrations, h.undropped⟩

theorem kept_of_run (run : Run (Step self) {} es s) : s.Kept :=
  run.keeps (fun h step => h.step step) .start

theorem isRegistered_of_run (run : Run (Step self) s es s') :
    s'.runner.isRegistered = (s.runner.isRegistered || es.any Event.asks) := by
  induction run with
  | nil => simp
  | cons step _ ih => rw [ih, step.isRegistered, List.any_cons, Bool.or_assoc]

/-- A runner's life so far. -/
structure Tenure (es : List Event) (s : Career) : Prop where
  faithful : Run Forwarder.Steps .unregistered s.record s.runner.forwarder
  /-- The first to ask for receivers registers them, and nobody does so again. -/
  once : s.record.countP Forwarder.Event.isRegister = (es.any Event.asks).toNat
  undropped : .drop ∉ s.record
  present : es.any Event.asks = true → ∀ receivers, s.runner = .idle receivers →
    receivers.isSome = true

theorem tenure_of_run (run : Run (Step self) {} es s) : Tenure es s := by
  have kept := kept_of_run run
  have registered : s.runner.isRegistered = es.any Event.asks := isRegistered_of_run run
  refine ⟨kept.faithful, ?_, kept.undropped, ?_⟩
  · rw [kept.registrations, registered]
  · intro asked receivers idle
    rw [← registered, idle] at asked
    cases receivers with
    | none => cases asked
    | some => rfl

/-- Who is inside holds the lock. -/
structure Exclusive (s : Career) (owner : TaskId) : Prop where
  runner : s.runner.isInside = true ↔ s.table.holder = some owner
  others : ∀ task ≠ owner, (s.others task).isInside = true ↔ s.table.holder = some task

theorem Exclusive.start : Exclusive {} self := by
  constructor <;> simp [Runner.isInside, Work.isInside]

theorem Exclusive.step (h : s.Exclusive self) (step : Step self s e s') : s'.Exclusive self := by
  cases step with
  | register => exact ⟨by simpa using h.runner, h.others⟩
  | arrive => exact ⟨by simpa using h.runner, h.others⟩
  | step step =>
    obtain ⟨own, others⟩ := (Runner.Moves.of_step step).inside h.runner
    refine ⟨own, ?_⟩
    intro task ne
    exact (h.others task ne).trans (others task ne).symm
  | @other task _ _ _ ne step =>
    obtain ⟨own, others⟩ := (Work.Moves.of_step step).inside (h.others task ne)
    refine ⟨h.runner.trans (others self ne.symm).symm, ?_⟩
    intro task' ne'
    by_cases same : task' = task
    · subst same
      simpa using own
    · simp only [Function.update_of_ne same]
      exact (h.others task' ne').trans (others task' same).symm
  | drop => exact ⟨h.runner, h.others⟩

theorem exclusive_of_run (run : Run (Step self) {} es s) : s.Exclusive self :=
  run.keeps (P := (Exclusive · self)) (fun h step => h.step step) .start

end Career

end PidOne
