import PidOne.Proofs.Holdings.Ownership

/-!
# What waiting answers

Waiting answers a status if a pass through the table has collected it, even when nobody has the
table any more. Otherwise it fails once nobody has the table, and goes on as long as somebody does.
-/

namespace PidOne.Holdings

open Kernel

/-- Somebody has a clone of the table. -/
def Held (s : Holdings) (n : Nat) : Prop :=
  ∃ (i : TaskId) (x : Holder), s.holders[i]? = some (some x) ∧ x.table = n

/-- The child has ended before and has been collected after, with this status. -/
def Reaped (k : Children) (child : ChildId) (status : ExitStatus) (k' : Children) : Prop :=
  ∃ c ending, k child = some c ∧ c.life = .ended ending ∧
    k' child = some { c with life := .collected ending } ∧ status = ending.status c.pid

/-- In this step a pass collects the child, through a clone of the table. -/
def Collects (s : Holdings) (e : Event) (s' : Holdings) (n : Nat) (child : ChildId)
    (status : ExitStatus) : Prop :=
  ∃ i x event answer, e = .act i event ∧ event.part = .pass (.wait answer) ∧
    s.holders[i]? = some (some x) ∧ x.table = n ∧ Reaped s.children child status s'.children

def CollectedThrough (es : List Event) (s : Holdings) (n : Nat) (child : ChildId)
    (status : ExitStatus) : Prop :=
  ∃ before e after t t', es = before ++ e :: after ∧ Run Step {} before t ∧ Step t e t' ∧
    Run Step t' after s ∧ Collects t e t' n child status

/-- How waiting on a handle stands, where such statuses have been collected for it. -/
structure Replies (s : Holdings) (n : Nat) (handle : Handle) (Collected : ExitStatus → Prop) :
    Prop where
  ok : ∀ status, (s.registry.get n).poll handle = some (.ok status) ↔ Collected status
  lost : ∀ failure, (s.registry.get n).poll handle = some (.error failure) ↔
    failure = .exitStatusLost handle.pid ∧ (∀ status, ¬Collected status) ∧ ¬s.Held n
  pending : (s.registry.get n).poll handle = none ↔ (∀ status, ¬Collected status) ∧ s.Held n

variable {s s' : Holdings} {e : Event} {es : List Event} {n k : Nat} {ticket : Ledger.Ticket}
variable {child : ChildId} {status : ExitStatus} {Collected : ExitStatus → Prop}

theorem Inv.held_iff (h : s.Inv) : s.Held n ↔ 0 < s.registry.count n := by
  rw [h.counted, clones_pos_iff]
  rfl

/-- The answer follows from what the ledger tells and from whether somebody has the table. -/
theorem Inv.replies (h : s.Inv) (issued : (s.ledgers n).tickets[k]? = some ticket)
    (kept : ticket.dropped = false)
    (served : ∀ status, (s.ledgers n).served? ticket = some status ↔ Collected status) :
    s.Replies n ticket.handle Collected := by
  have poll := (h.agrees n).poll issued kept
  cases first : (s.ledgers n).served? ticket with
  | some status =>
    have collected : Collected status := (served status).1 first
    have once : ∀ status', Collected status' ↔ status = status' := by
      intro status'
      rw [← served, first, Option.some.injEq]
    rw [first, Slot.answer?_standing_some] at poll
    constructor
    · simp [poll, once]
    · simp [poll, once]
    · simp [poll, once]
  | none =>
    have nothing : ∀ status, ¬Collected status := by
      intro status collected
      exact nomatch first.symm.trans ((served status).2 collected)
    rw [first] at poll
    by_cases held : s.Held n
    · rw [decide_eq_true (h.held_iff.1 held), Slot.answer?_standing_waiting] at poll
      constructor
      · simp [poll, nothing]
      · simp [poll, held]
      · simp [poll, nothing, held]
    · have gone : ¬0 < s.registry.count n := fun alive => held (h.held_iff.2 alive)
      rw [decide_eq_false gone, Slot.answer?_standing_lost] at poll
      constructor
      · simp [poll, nothing]
      · simp [poll, nothing, held, eq_comm]
      · simp [poll, held]

theorem not_reaped {k : Children} : ¬Reaped k child status k := by
  rintro ⟨c, ending, known, ended, known', _⟩
  have life := congrArg Child.life (Option.some.inj (known.symm.trans known'))
  exact nomatch ended.symm.trans life

theorem reaped_set_iff {k : Children} {j : ChildId} {c : Child} {ending : Ending}
    (known : k j = some c) (ended : c.life = .ended ending) :
    Reaped k child status (k.set j { c with life := .collected ending }) ↔
      child = j ∧ status = ending.status c.pid := by
  constructor
  · rintro ⟨d, ending', known', ended', after, rfl⟩
    by_cases same : child = j
    · subst same
      cases known.symm.trans known'
      cases ended.symm.trans ended'
      exact ⟨rfl, rfl⟩
    · rw [Children.set_of_ne same] at after
      exact absurd ⟨d, ending', known', ended', after, rfl⟩ not_reaped
  · rintro ⟨rfl, rfl⟩
    exact ⟨c, ending, known, ended, Children.set_self .., rfl⟩

theorem collected_record_start {l : Ledger} {event : Spawning.Event} {w : Work}
    {forked : Option ChildId} : (record l (.start event) w forked).collected = l.collected := by
  unfold record
  split
  · rfl
  · rename_i impossible
    cases impossible
  · rfl

theorem mem_record {l : Ledger} {t : Table} {w : Work} {part : User.Part} {k k' : Children}
    {before after : Option ChildId} (serves : Serves k t before part after k') :
    (child, status) ∈ (record l part w after).collected ↔ (child, status) ∈ l.collected ∨
      (∃ answer, part = .pass (.wait answer)) ∧ Reaped k child status k' := by
  cases serves with
  | start => simp [collected_record_start]
  | other => simp [record]
  | pass passes =>
    cases passes with
    | lock | unlock => simp [record]
    | @wait answer _ _ answers =>
      cases reported : answer.status? with
      | none =>
        obtain ⟨rfl, rfl⟩ := answers.of_status?_eq_none reported
        simp [record, not_reaped]
      | some status' =>
        obtain ⟨j, c, ending, rfl, known, ended, rfl, rfl⟩ := answers.of_status? reported
        simp [record, reported, reaped_set_iff known ended, Ledger.collect]

theorem Step.collected (step : Step s e s') :
    (child, status) ∈ (s'.ledgers n).collected ↔
      (child, status) ∈ (s.ledgers n).collected ∨ Collects s e s' n child status := by
  cases step with
  | create | clone | stop | signal | release | kernel => simp [Collects]
  | @drop m slot =>
    dsimp only
    rw [Function.update_apply]
    split
    · rename_i same
      simp [Collects, same, Ledger.drop]
    · simp [Collects]
  | act held moves serves =>
    dsimp only
    rw [Function.update_apply]
    split
    · rename_i same
      subst same
      rw [mem_record serves]
      apply or_congr_right
      constructor
      · rintro ⟨⟨answer, part⟩, reaped⟩
        exact ⟨_, _, _, answer, rfl, part, held, rfl, reaped⟩
      · rintro ⟨_, _, _, answer, same, part, _, _, reaped⟩
        cases same
        exact ⟨⟨answer, part⟩, reaped⟩
    · rename_i other
      refine (or_iff_left ?_).symm
      rintro ⟨_, y, _, _, same, _, held', table, _⟩
      cases same
      cases held.symm.trans held'
      exact other table.symm

theorem collected_iff (run : Run Step {} es s) :
    (child, status) ∈ (s.ledgers n).collected ↔ CollectedThrough es s n child status := by
  constructor
  · intro collected
    obtain ⟨before, e, after, t, t', rfl, first, new, step, old, rest⟩ :=
      run.since (P := fun s => (child, status) ∈ (s.ledgers n).collected) (by simp) collected
    refine ⟨before, e, after, t, t', rfl, first, step, rest.mono fun h => h.2.1, ?_⟩
    exact (step.collected.1 old).resolve_left new
  · rintro ⟨before, e, after, t, t', rfl, first, step, rest, collects⟩
    have keeps : ∀ {s e t}, (child, status) ∈ (s.ledgers n).collected → Step s e t →
        (child, status) ∈ (t.ledgers n).collected := fun old step => step.collected.2 (.inl old)
    exact rest.keeps (P := fun s => (child, status) ∈ (s.ledgers n).collected) keeps
      (step.collected.2 (.inr collects))

/-- The caller lets go of its table while a reaper still has it, and nobody has the next one when
the same PID comes again. -/
def replaced : List Event := [.create, .clone 0 (.reaper 500),
  .act 0 (.caller .start), .act 0 (.caller (.spawn .lock)),
  .act 0 (.caller (.spawn (.fork (.ok 5)))), .act 0 (.caller (.spawn (.exec none))),
  .act 0 (.caller (.spawn .register)), .act 0 (.caller (.spawn .unlock)),
  .create, .release 0, .kernel (.exit 0 .success),
  .act 1 (.reaper (.pass .lock)), .act 1 (.reaper (.pass (.wait (.report 5 0)))),
  .act 1 (.reaper (.pass (.wait .noChildren))), .act 1 (.reaper (.pass .unlock)),
  .act 1 (.reaper (.rest 0)), .stop 1, .act 1 (.reaper (.wake .stop)), .release 1,
  .act 2 (.caller .start), .act 2 (.caller (.spawn .lock)),
  .act 2 (.caller (.spawn (.fork (.ok 5)))), .act 2 (.caller (.spawn (.exec none))),
  .act 2 (.caller (.spawn .register)), .act 2 (.caller (.spawn .unlock)), .release 2]

theorem run_replaced : ∃ s, Run Sparing {} replaced s ∧ s.holders = [none, none, none] ∧
    s.ledgers 0 = ⟨[⟨⟨5, 0⟩, 0, 0, false⟩], [(0, Ending.success.status 5)]⟩ ∧
    s.ledgers 1 = ⟨[⟨⟨5, 0⟩, 1, 0, false⟩], []⟩ := by
  refine Run.exists_cons ⟨.create, nofun, nofun⟩ ?_
  refine Run.exists_cons ⟨.clone rfl, nofun, nofun⟩ ?_
  refine Run.exists_cons ⟨.act rfl rfl .other, nofun, nofun⟩ ?_
  refine Run.exists_cons ⟨.act rfl rfl (.start .lock nofun), nofun, nofun⟩ ?_
  refine Run.exists_cons ⟨.act rfl rfl (.start (.fork (i := 0) rfl nofun) ?_), ?_, ?_⟩ ?_
  · rintro pid ⟨⟩
    rfl
  · rintro pid ⟨⟩ n
    rcases n with _ | n <;> rfl
  · rintro pid ⟨⟩ i x held
    rcases i with _ | _ | i <;> cases held <;> nofun
  refine Run.exists_cons ⟨.act rfl rfl (.start .exec nofun), nofun, nofun⟩ ?_
  refine Run.exists_cons ⟨.act rfl rfl (.start .register nofun), nofun, nofun⟩ ?_
  refine Run.exists_cons ⟨.act rfl rfl (.start .unlock nofun), nofun, nofun⟩ ?_
  refine Run.exists_cons ⟨.create, nofun, nofun⟩ ?_
  refine Run.exists_cons ⟨.release rfl, nofun, nofun⟩ ?_
  refine Run.exists_cons ⟨.kernel (.exit rfl rfl), nofun, nofun⟩ ?_
  refine Run.exists_cons ⟨.act rfl rfl (.pass .lock), nofun, nofun⟩ ?_
  refine Run.exists_cons ⟨.act rfl rfl (.pass (.wait
    (.ended (i := 0) (c := ⟨5, true, .ended .success⟩) (e := .success) rfl rfl))), nofun, nofun⟩ ?_
  refine Run.exists_cons ⟨.act rfl rfl (.pass (.wait (.noChildren ?_))), nofun, nofun⟩ ?_
  · intro i c e known ended
    simp only [Children.set_set, Children.set_apply] at known
    split at known <;> cases known
    cases ended
  refine Run.exists_cons ⟨.act rfl rfl (.pass .unlock), nofun, nofun⟩ ?_
  refine Run.exists_cons ⟨.act rfl rfl .other, nofun, nofun⟩ ?_
  refine Run.exists_cons ⟨.stop rfl, nofun, nofun⟩ ?_
  refine Run.exists_cons ⟨.act rfl rfl .other, nofun, nofun⟩ ?_
  refine Run.exists_cons ⟨.release rfl, nofun, nofun⟩ ?_
  refine Run.exists_cons ⟨.act rfl rfl .other, nofun, nofun⟩ ?_
  refine Run.exists_cons ⟨.act rfl rfl (.start .lock nofun), nofun, nofun⟩ ?_
  refine Run.exists_cons ⟨.act rfl rfl (.start (.fork (i := 1) rfl ?_) ?_), ?_, ?_⟩ ?_
  · intro i c known _
    simp only [Children.set_set, Children.set_apply] at known
    split at known <;> cases known
    rfl
  · rintro pid ⟨⟩
    rfl
  · rintro pid ⟨⟩ n
    rcases n with _ | _ | n <;> rfl
  · rintro pid ⟨⟩ i x held
    rcases i with _ | _ | _ | i <;> cases held
    nofun
  refine Run.exists_cons ⟨.act rfl rfl (.start .exec nofun), nofun, nofun⟩ ?_
  refine Run.exists_cons ⟨.act rfl rfl (.start .register nofun), nofun, nofun⟩ ?_
  refine Run.exists_cons ⟨.act rfl rfl (.start .unlock nofun), nofun, nofun⟩ ?_
  refine Run.exists_cons ⟨.release rfl, nofun, nofun⟩ ?_
  exact ⟨_, .nil, rfl, rfl, rfl⟩

/-- A pass through another table collects the child. An orphan then gets its PID, for which the
child's own table still waits. -/
def collectedElsewhere : List Event := [.create, .create,
  .act 0 (.caller .start), .act 0 (.caller (.spawn .lock)),
  .act 0 (.caller (.spawn (.fork (.ok 5)))), .act 0 (.caller (.spawn (.exec none))),
  .act 0 (.caller (.spawn .register)), .act 0 (.caller (.spawn .unlock)),
  .kernel (.exit 0 .failure), .act 1 (.caller .sweep), .act 1 (.caller (.pass .lock)),
  .act 1 (.caller (.pass (.wait (.report 5 256)))), .kernel (.adopt 1 5 (some .success)),
  .act 0 (.caller .rest), .act 0 (.caller .sweep), .act 0 (.caller (.pass .lock)),
  .act 0 (.caller (.pass (.wait (.report 5 0))))]

/-- The same before the child is registered, so that no table waits for the PID when an orphan
gets it. -/
def collectedBeforehand : List Event := [.create, .create,
  .act 0 (.caller .start), .act 0 (.caller (.spawn .lock)),
  .act 0 (.caller (.spawn (.fork (.ok 5)))), .kernel (.exit 0 .failure),
  .act 1 (.caller .sweep), .act 1 (.caller (.pass .lock)),
  .act 1 (.caller (.pass (.wait (.report 5 256)))), .kernel (.adopt 1 5 (some .success)),
  .act 0 (.caller (.spawn (.exec none))), .act 0 (.caller (.spawn .register)),
  .act 0 (.caller (.spawn .unlock)), .act 0 (.caller .rest), .act 0 (.caller .sweep),
  .act 0 (.caller (.pass .lock)), .act 0 (.caller (.pass (.wait (.report 5 0))))]

theorem run_collectedElsewhere : ∃ s, Run Step {} collectedElsewhere s ∧ s.Held 0 ∧
    s.ledgers 0 = ⟨[⟨⟨5, 0⟩, 0, 0, false⟩], [(1, Ending.success.status 5)]⟩ ∧
    (s.registry.get 0).poll ⟨5, 0⟩ = some (.ok (Ending.success.status 5)) := by
  refine Run.exists_cons .create ?_
  refine Run.exists_cons .create ?_
  refine Run.exists_cons (.act rfl rfl .other) ?_
  refine Run.exists_cons (.act rfl rfl (.start .lock nofun)) ?_
  refine Run.exists_cons (.act rfl rfl (.start (.fork (i := 0) rfl nofun) ?_)) ?_
  · rintro pid ⟨⟩
    rfl
  refine Run.exists_cons (.act rfl rfl (.start .exec nofun)) ?_
  refine Run.exists_cons (.act rfl rfl (.start .register nofun)) ?_
  refine Run.exists_cons (.act rfl rfl (.start .unlock nofun)) ?_
  refine Run.exists_cons (.kernel (.exit rfl rfl)) ?_
  refine Run.exists_cons (.act rfl rfl .other) ?_
  refine Run.exists_cons (.act rfl rfl (.pass .lock)) ?_
  refine Run.exists_cons (.act rfl rfl (.pass (.wait
    (.ended (i := 0) (c := ⟨5, true, .ended .failure⟩) (e := .failure) rfl rfl)))) ?_
  refine Run.exists_cons (.kernel (.adopt rfl ?_)) ?_
  · intro i c known _
    simp only [Children.set_set, Children.set_apply] at known
    split at known <;> cases known
    rfl
  refine Run.exists_cons (.act rfl rfl .other) ?_
  refine Run.exists_cons (.act rfl rfl .other) ?_
  refine Run.exists_cons (.act rfl rfl (.pass .lock)) ?_
  refine Run.exists_cons (.act rfl rfl (.pass (.wait
    (.ended (i := 1) (c := ⟨5, false, .ended .success⟩) (e := .success) rfl rfl)))) ?_
  exact ⟨_, .nil, ⟨0, _, rfl, rfl⟩, rfl, rfl⟩

theorem run_collectedBeforehand : ∃ s, Run Step {} collectedBeforehand s ∧ s.Held 0 ∧
    s.ledgers 0 = ⟨[⟨⟨5, 0⟩, 0, 0, false⟩], [(1, Ending.success.status 5)]⟩ ∧
    (s.registry.get 0).poll ⟨5, 0⟩ = some (.ok (Ending.success.status 5)) := by
  refine Run.exists_cons .create ?_
  refine Run.exists_cons .create ?_
  refine Run.exists_cons (.act rfl rfl .other) ?_
  refine Run.exists_cons (.act rfl rfl (.start .lock nofun)) ?_
  refine Run.exists_cons (.act rfl rfl (.start (.fork (i := 0) rfl nofun) ?_)) ?_
  · rintro pid ⟨⟩
    rfl
  refine Run.exists_cons (.kernel (.exit rfl rfl)) ?_
  refine Run.exists_cons (.act rfl rfl .other) ?_
  refine Run.exists_cons (.act rfl rfl (.pass .lock)) ?_
  refine Run.exists_cons (.act rfl rfl (.pass (.wait
    (.ended (i := 0) (c := ⟨5, true, .ended .failure⟩) (e := .failure) rfl rfl)))) ?_
  refine Run.exists_cons (.kernel (.adopt rfl ?_)) ?_
  · intro i c known _
    simp only [Children.set_set, Children.set_apply] at known
    split at known <;> cases known
    rfl
  refine Run.exists_cons (.act rfl rfl (.start .exec nofun)) ?_
  refine Run.exists_cons (.act rfl rfl (.start .register nofun)) ?_
  refine Run.exists_cons (.act rfl rfl (.start .unlock nofun)) ?_
  refine Run.exists_cons (.act rfl rfl .other) ?_
  refine Run.exists_cons (.act rfl rfl .other) ?_
  refine Run.exists_cons (.act rfl rfl (.pass .lock)) ?_
  refine Run.exists_cons (.act rfl rfl (.pass (.wait
    (.ended (i := 1) (c := ⟨5, false, .ended .success⟩) (e := .success) rfl rfl)))) ?_
  exact ⟨_, .nil, ⟨0, _, rfl, rfl⟩, rfl, rfl⟩

/-- After these events the handle has the status of a stranger, though no pass through its table has
collected its own child. -/
def Misled (es : List Event) : Prop := ∃ s,
  Run Step {} es s ∧ s.Held 0 ∧ (s.ledgers 0).tickets[0]? = some ⟨⟨5, 0⟩, 0, 0, false⟩ ∧
    (∀ status, ¬CollectedThrough es s 0 0 status) ∧
    (s.registry.get 0).poll ⟨5, 0⟩ = some (.ok (Ending.success.status 5))

theorem misled_of_ledger {es : List Event} (h : ∃ s, Run Step {} es s ∧ s.Held 0 ∧
    s.ledgers 0 = ⟨[⟨⟨5, 0⟩, 0, 0, false⟩], [(1, Ending.success.status 5)]⟩ ∧
    (s.registry.get 0).poll ⟨5, 0⟩ = some (.ok (Ending.success.status 5))) : Misled es := by
  obtain ⟨s, run, held, ledger, answer⟩ := h
  refine ⟨s, run, held, by rw [ledger]; rfl, fun status => ?_, answer⟩
  rw [← collected_iff run, ledger]
  simp

end PidOne.Holdings
