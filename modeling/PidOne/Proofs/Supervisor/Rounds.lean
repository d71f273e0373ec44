import PidOne.Proofs.Supervisor.Order
import PidOne.Supervisor.Simulation

/-!
# Rounds

However many rounds there are, they are a run of the supervisor. As long as there is no result
another round can be made, and the kernel is asked about orphans in the round in which the script
says so, and in no other one.
-/

namespace PidOne

theorem Script.ne_adoptOrphans (script : Script) : script ≠ .adoptOrphans script := by
  induction script with
  | adoptOrphans rest ih =>
    intro same
    injection same with same
    exact ih same
  | _ => exact nofun

namespace Supervisor

variable {μ : Type} [Host μ]

/-- In a round a signal comes in, or a task takes a step, or the host goes on. -/
inductive Rounds (s : Supervisor) (m : μ) : Supervisor → μ → Prop
  | signal (arrives : Host.arrival? m = some (signal, m')) :
    Rounds s m (s.take (.signal signal)) m'
  | step (quiet : Host.arrival? m = none) (next : s.next m = some (e, m')) :
    Rounds s m (s.take e) m'
  | wait (quiet : Host.arrival? m = none) (idle : s.next m = none)
    (advance : Host.advance m (s.reaper.bind (·.alarm)) = some m') : Rounds s m s m'

variable {s s' : Supervisor} {m m' : μ} {e : Event}

theorem take_eq_or_steps (s : Supervisor) (e : Event) : s.take e = s ∨ Steps s e (s.take e) := by
  cases h : s.step e with
  | none => exact .inl (by simp [take, h])
  | some s' => exact .inr (by simp [take, h, Steps])

theorem take_of_step (h : s.step e = some s') : s.take e = s' := by simp [take, h]

theorem Rounds.of_round (h : s.round m = some (s', m')) : Rounds s m s' m' := by
  unfold Supervisor.round at h
  split at h
  · cases h
    exact .signal ‹_›
  · split at h
    · cases h
      exact .step ‹_› ‹_›
    · obtain ⟨after, advance, same⟩ := Option.map_eq_some_iff.1 h
      cases same
      exact .wait ‹_› ‹_› advance

theorem Rounds.steps (h : Rounds s m s' m') : s' = s ∨ ∃ e, Steps s e s' := by
  cases h with
  | signal | step => exact (take_eq_or_steps s _).imp_right fun steps => ⟨_, steps⟩
  | wait => exact .inl rfl

theorem orderly_round (h : s.Orderly) (round : s.round m = some (s', m')) : s'.Orderly := by
  rcases (Rounds.of_round round).steps with rfl | ⟨e, step⟩
  · exact h
  · exact h.moves (.of_step step)

theorem rounds_of_stopped (h : s.isOver m = true ∨ s.round m = none) (n : Nat) :
    rounds n s m = (s, m) := by
  cases n with
  | zero => rfl
  | succ n => rcases h with stops | none <;> simp [rounds, *]

theorem rounds_succ_of_round (goesOn : s.isOver m = false) (round : s.round m = some (s', m'))
    (n : Nat) : rounds (n + 1) s m = rounds n s' m' := by
  simp [rounds, goesOn, round]

theorem rounds_add (k n : Nat) (s : Supervisor) (m : μ) :
    rounds (k + n) s m = rounds n (rounds k s m).1 (rounds k s m).2 := by
  induction k generalizing s m with
  | zero => simp [rounds]
  | succ k ih =>
    rw [Nat.add_right_comm]
    cases stops : s.isOver m with
    | true => simp [rounds_of_stopped (.inl stops)]
    | false =>
      cases round : s.round m with
      | none => simp [rounds_of_stopped (.inr round)]
      | some x =>
        rw [rounds_succ_of_round stops round, rounds_succ_of_round stops round]
        exact ih x.1 x.2

theorem rounds_succ (n : Nat) (s : Supervisor) (m : μ) :
    rounds (n + 1) s m = rounds 1 (rounds n s m).1 (rounds n s m).2 := rounds_add n 1 s m

theorem rounds_of_result {n k : Nat} {result : Result}
    (returned : (rounds n s m).1.result? = some result) (later : n ≤ k) :
    rounds k s m = rounds n s m := by
  obtain ⟨i, rfl⟩ := Nat.exists_eq_add_of_le later
  rw [rounds_add, rounds_of_stopped (.inl (by simp [isOver, returned]))]

theorem rounds_one (s : Supervisor) (m : μ) :
    rounds 1 s m = (s, m) ∨ s.round m = some (rounds 1 s m) := by
  cases stops : s.isOver m with
  | true => exact .inl (rounds_of_stopped (.inl stops) 1)
  | false =>
    cases round : s.round m with
    | none => exact .inl (rounds_of_stopped (.inr round) 1)
    | some x =>
      rw [rounds_succ_of_round stops round]
      exact .inr rfl

/-- What each round keeps, any number of rounds keeps. -/
theorem keeps_rounds {P : Supervisor → μ → Prop}
    (keeps : ∀ {s m s' m'}, P s m → s.round m = some (s', m') → P s' m') (start : P s m)
    (n : Nat) : P (rounds n s m).1 (rounds n s m).2 := by
  induction n with
  | zero => exact start
  | succ n ih =>
    rw [rounds_succ]
    rcases rounds_one (rounds n s m).1 (rounds n s m).2 with same | round
    · rwa [same]
    · exact keeps ih round

theorem orderly_rounds (h : s.Orderly) (m : μ) (n : Nat) : (rounds n s m).1.Orderly :=
  keeps_rounds (P := fun s (_ : μ) => s.Orderly) orderly_round h n

theorem run_rounds (n : Nat) (s : Supervisor) (m : μ) :
    ∃ es, Run Steps s es (rounds n s m).1 := by
  refine keeps_rounds (P := fun t (_ : μ) => ∃ es, Run Steps s es t) ?_ ⟨[], .nil⟩ n
  rintro t m t' m' ⟨es, run⟩ round
  rcases (Rounds.of_round round).steps with rfl | ⟨e, step⟩
  · exact ⟨es, run⟩
  · exact ⟨es ++ [e], run.append (.single step)⟩

/-- The script goes on unless it has come to its result, or to a command, or waits for the end of
the reaper. -/
theorem advance_isSome_of_closing (ahead : s.script.Closing) (ongoing : s.result? = none) :
    s.advance.isSome = true := by
  cases head : s.script with
  | done => simp [result?, head] at ongoing
  | log => simp [advance, head]
  | _ =>
    rw [head] at ahead
    exact ahead.elim

theorem advance_isSome_of_opening (ahead : s.script.Opening) : s.advance.isSome = true := by
  cases head : s.script with
  | log | adoptOrphans | receiveSignals | startReaper => simp [advance, head]
  | _ =>
    rw [head] at ahead
    exact ahead.elim

theorem advance_isSome_of_ended {rest : Script} {r : Reaper} (head : s.script = .stopReaper rest)
    (there : s.reaper = some r) (ended : r.hasEnded = true) : s.advance.isSome = true := by
  simp [advance, head, there, ended]

theorem reaperNext_of_next (idle : s.next m = none) :
    s.advance.isSome = false ∧ s.reaperNext m = none := by
  unfold next at idle
  split at idle
  · cases idle
  · refine ⟨Bool.eq_false_iff.2 ‹_›, ?_⟩
    split at idle
    · split at idle
      · cases idle
      · exact idle
    · exact idle

/-- When no task has anything to do, the reaper idles and its alarm is set. -/
theorem idle_of_next (h : s.Orderly) (ongoing : s.result? = none) (idle : s.next m = none) :
    ∃ r deadline, s.reaper = some r ∧ r.activity = .idle deadline ∧
      Host.milliseconds m < deadline := by
  obtain ⟨blocked, nothing⟩ := reaperNext_of_next idle
  cases h.staged with
  | opening ahead => simp [advance_isSome_of_opening ahead] at blocked
  | closing ahead => simp [advance_isSome_of_closing ahead ongoing] at blocked
  | @running r _ there needed asked =>
    simp only [reaperNext, there, Option.bind_some, Option.map_eq_none_iff] at nothing
    cases activity : r.activity with
    | idle deadline =>
      refine ⟨r, deadline, there, activity, ?_⟩
      simp only [Reaper.next, activity] at nothing
      split at nothing
      · cases nothing
      · split at nothing
        · cases nothing
        · split at nothing
          · cases nothing
          · omega
    | passing pass =>
      simp only [Reaper.next, activity] at nothing
      split at nothing <;> cases nothing
    | ended =>
      have ended : r.hasEnded = true := Reaper.hasEnded_iff.2 activity
      obtain ⟨rest, head⟩ := needed (asked ended)
      simp [advance_isSome_of_ended head there ended] at blocked

theorem round_isSome [Host.Lawful μ] (h : s.Orderly) (ongoing : s.result? = none) (m : μ) :
    (s.round m).isSome = true := by
  unfold Supervisor.round
  split
  · rfl
  · split
    · rfl
    · rename_i idle
      obtain ⟨r, deadline, there, activity, _⟩ := idle_of_next h ongoing idle
      simp [there, Reaper.alarm, activity, Host.Lawful.advance_isSome]

/-- In this round the kernel is asked to make orphans children of the process. -/
def Registers (s : Supervisor) (m : μ) (s' : Supervisor) (m' : μ) : Prop :=
  s.script = .adoptOrphans s'.script ∧ m' = Host.adoptOrphans m

theorem not_registers (same : s'.script = s.script) : ¬Registers s m s' m' :=
  fun registers => s.script.ne_adoptOrphans (same ▸ registers.1)

theorem next_cases (next : s.next m = some (e, m')) :
    (e = .advance ∧ m' = s.ask m ∧ s.advance.isSome = true) ∨ (∃ r, e = .runner r) ∨
      ∃ r, e = .reaper r := by
  have reaper : s.reaperNext m = some (e, m') → ∃ r, e = .reaper r := by
    simp only [reaperNext, Option.bind_eq_some_iff, Option.map_eq_some_iff]
    rintro ⟨r, _, x, _, same⟩
    cases same
    exact ⟨_, rfl⟩
  unfold Supervisor.next at next
  split at next
  · cases next
    exact .inl ⟨rfl, rfl, ‹_›⟩
  · split at next
    · split at next
      · cases next
        exact .inr (.inl ⟨_, rfl⟩)
      · exact .inr (.inr (reaper next))
    · exact .inr (.inr (reaper next))

/-- Only the script itself leads to its next operation. -/
theorem script_take (h : e ≠ .advance) :
    (s.take e).script = s.script ∧ (s.take e).adoptsOrphans = s.adoptsOrphans := by
  cases step : s.step e with
  | none => simp [take, step]
  | some s' =>
    rw [take_of_step step]
    cases Moves.of_step step with
    | runner | reaper | signal => exact ⟨rfl, rfl⟩
    | _ => exact absurd rfl h

theorem registers_of_advance (advance : s.advance = some s') :
    s'.adoptsOrphans = true ↔ s.adoptsOrphans = true ∨ Registers s m s' (s.ask m) := by
  cases Moves.of_advance advance with
  | adoptOrphans ahead => simp [Registers, ask, ahead]
  | log ahead | receiveSignals ahead | startReaper ahead | begin ahead | finish ahead
  | requestStop ahead | stopped ahead => simp [Registers, ahead]

/-- That orphans are adopted means that the kernel has been asked. -/
theorem registers_of_round (round : s.round m = some (s', m')) :
    s'.adoptsOrphans = true ↔ s.adoptsOrphans = true ∨ Registers s m s' m' := by
  have other : s'.script = s.script ∧ s'.adoptsOrphans = s.adoptsOrphans →
      (s'.adoptsOrphans = true ↔ s.adoptsOrphans = true ∨ Registers s m s' m') := by
    rintro ⟨script, adopts⟩
    rw [adopts]
    exact (or_iff_left (not_registers script)).symm
  cases Rounds.of_round round with
  | signal => exact other (script_take nofun)
  | wait => exact other ⟨rfl, rfl⟩
  | step _ next =>
    rcases next_cases next with ⟨rfl, rfl, advances⟩ | ⟨r, rfl⟩ | ⟨r, rfl⟩
    · obtain ⟨after, advance⟩ := Option.isSome_iff_exists.1 advances
      rw [take_of_step (e := .advance) advance]
      exact registers_of_advance advance
    · exact other (script_take nofun)
    · exact other (script_take nofun)

/-- In the next round the kernel is asked about orphans. -/
def RegistersAt (s : Supervisor) (m : μ) (n : Nat) : Prop :=
  Registers (rounds n s m).1 (rounds n s m).2 (rounds (n + 1) s m).1 (rounds (n + 1) s m).2

theorem adoptsOrphans_rounds (before : s.adoptsOrphans = false) (m : μ) (n : Nat) :
    (rounds n s m).1.adoptsOrphans = true ↔ ∃ k < n, RegistersAt s m k := by
  induction n with
  | zero => simp [rounds, before]
  | succ n ih =>
    have next : (rounds (n + 1) s m).1.adoptsOrphans = true ↔
        (rounds n s m).1.adoptsOrphans = true ∨ RegistersAt s m n := by
      rw [RegistersAt, rounds_succ]
      rcases rounds_one (rounds n s m).1 (rounds n s m).2 with same | round
      · rw [same]
        exact (or_iff_left (not_registers rfl)).symm
      · exact registers_of_round round
    rw [next, ih, Nat.exists_lt_succ_right]

end Supervisor

end PidOne
