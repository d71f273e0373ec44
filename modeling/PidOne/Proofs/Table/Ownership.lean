import PidOne.Proofs.Table.Ledger

/-!
# Whose status it is

A table knows children by their PIDs only. As long as no PID is given out for which a table waits,
the status that it hands over is that of the handle's own child.
-/

namespace PidOne

open Kernel

namespace Kernel

/-- Among the children that the kernel still keeps only this one may have the PID. -/
def Children.Alone (k : Children) (i : ChildId) (pid : Pid) : Prop :=
  ∀ j c, k j = some c → c.pid = pid → c.life.isOver = false → j = i

/-- Children keep their PIDs, and who is new has the PID that has been given out. -/
structure Evolves (k : Children) (given : Option Pid) (k' : Children) : Prop where
  on : ∀ i c, k i = some c → ∃ c', k' i = some c' ∧ c'.pid = c.pid ∧
    (c.life.isOver = true → c'.life.isOver = true)
  back : ∀ i c', k' i = some c' → given = some c'.pid ∨ ∃ c, k i = some c ∧ c.pid = c'.pid ∧
    (c'.life.isOver = false → c.life.isOver = false)

variable {k k' : Children} {i : ChildId} {c : Child} {pid : Pid} {given : Option Pid}

theorem Evolves.refl (k : Children) (given : Option Pid) : Evolves k given k where
  on _ c known := ⟨c, known, rfl, id⟩
  back _ c known := .inr ⟨c, known, rfl, id⟩

theorem Evolves.new (fresh : k i = none) (own : Bool) (life : Life) :
    Evolves k (some pid) (k.set i ⟨pid, own, life⟩) where
  on j c known := by
    refine ⟨c, ?_, rfl, id⟩
    rw [Children.set_of_ne, known]
    rintro rfl
    exact nomatch fresh.symm.trans known
  back j c known := by
    rcases Children.of_set known with ⟨_, rfl⟩ | ⟨_, known⟩
    · exact .inl rfl
    · exact .inr ⟨c, known, rfl, id⟩

theorem Evolves.set_life (known : k i = some c) (kept : c.life.isOver = false) (life : Life) :
    Evolves k given (k.set i { c with life }) where
  on j d known' := by
    rw [Children.set_apply]
    split
    · subst j
      cases known.symm.trans known'
      exact ⟨_, rfl, rfl, fun past => nomatch kept.symm.trans past⟩
    · exact ⟨d, known', rfl, id⟩
  back j d known' := by
    rcases Children.of_set known' with ⟨rfl, rfl⟩ | ⟨_, known'⟩
    · exact .inr ⟨c, known, rfl, fun _ => kept⟩
    · exact .inr ⟨d, known', rfl, id⟩

theorem Evolves.collect {e : Ending} (known : k i = some c) (ended : c.life = .ended e) :
    Evolves k none (k.set i { c with life := .collected e }) :=
  .set_life known (by simp [ended, Life.isOver]) _

theorem Children.Alone.evolve (h : k.Alone i pid) (evolves : Evolves k given k')
    (other : given ≠ some pid) : k'.Alone i pid := by
  intro j c known same kept
  rcases evolves.back j c known with new | ⟨d, known', same', kept'⟩
  · rw [same] at new
    exact absurd new other
  · exact h j d known' (same'.trans same) (kept' kept)

/-- The PID that a start is given. -/
def forked? : Spawning.Event → Option Pid
  | .fork (.ok pid) => some pid
  | _ => none

def adopted? : Event → Option Pid
  | .adopt _ pid _ => some pid
  | .exit .. => none

theorem Starts.evolves {child child' : Option ChildId} {event : Spawning.Event}
    (h : Starts k child event child' k') : Evolves k (forked? event) k' := by
  cases h with
  | fork fresh => exact .new fresh _ _
  | discard known ended => exact .set_life known (by simp [ended, Life.isOver]) _
  | _ => exact .refl ..

theorem Passes.evolves {event : Pass.Event} {child : Option ChildId}
    (h : Passes k event child k') : Evolves k none k' := by
  cases h with
  | lock | unlock => exact .refl ..
  | wait answers =>
    cases answers with
    | ended known ended => exact .collect known ended
    | _ => exact .refl ..

theorem Changes.evolves {event : Event} (h : Changes k event k') :
    Evolves k (adopted? event) k' := by
  cases h with
  | exit known running => exact .set_life known (by simp [running, Life.isOver]) _
  | adopt fresh => exact .new fresh _ _

end Kernel

namespace Ledger

/-- The status that is handed over is that of the handle's child. -/
structure Owns (l : Ledger) (k : Children) (alive : Bool) : Prop where
  settled : ∀ j status, (j, status) ∈ l.collected → ∃ c, k j = some c ∧ c.life.isOver = true
  known : ∀ ticket ∈ l.tickets, ∃ c, k ticket.child = some c ∧ c.pid = ticket.handle.pid
  own : ∀ ticket ∈ l.tickets, ∀ status,
    l.served? ticket = some status ↔ (ticket.child, status) ∈ l.collected
  alone : alive = true → ∀ ticket ∈ l.tickets, l.served? ticket = none →
    k.Alone ticket.child ticket.handle.pid

/-- A child that is about to be registered. -/
structure Expects (l : Ledger) (k : Children) (i : ChildId) (pid : Pid) : Prop where
  known : ∃ c, k i = some c ∧ c.pid = pid
  alone : k.Alone i pid
  uncollected : ∀ status, (i, status) ∉ l.collected

variable {l : Ledger} {k k' : Children} {alive alive' : Bool} {given : Option Pid}
variable {handle : Handle} {i : ChildId} {pid : Pid} {c : Child} {e : Ending}

theorem Expects.evolve (h : l.Expects k i pid) (evolves : Evolves k given k')
    (other : given ≠ some pid) : l.Expects k' i pid where
  known := by
    obtain ⟨c, known, same⟩ := h.known
    obtain ⟨c', known', same', _⟩ := evolves.on i c known
    exact ⟨c', known', same'.trans same⟩
  alone := h.alone.evolve evolves other
  uncollected := h.uncollected

theorem Owns.start : Owns {} k alive := by
  constructor <;> simp

theorem Owns.evolve (h : l.Owns k alive) (evolves : Evolves k given k')
    (spared : ∀ ticket ∈ l.tickets, l.served? ticket = none → alive = true →
      given ≠ some ticket.handle.pid) : l.Owns k' alive where
  settled j status collected := by
    obtain ⟨c, known, past⟩ := h.settled j status collected
    obtain ⟨c', known', _, past'⟩ := evolves.on j c known
    exact ⟨c', known', past' past⟩
  known ticket issued := by
    obtain ⟨c, known, same⟩ := h.known ticket issued
    obtain ⟨c', known', same', _⟩ := evolves.on _ c known
    exact ⟨c', known', same'.trans same⟩
  own := h.own
  alone there ticket issued unserved :=
    (h.alone there ticket issued unserved).evolve evolves (spared ticket issued unserved there)

theorem mem_issue {ticket : Ticket} : ticket ∈ (l.issue handle i).tickets ↔
    ticket ∈ l.tickets ∨ ticket = ⟨handle, i, l.collected.length, false⟩ := by
  simp [issue]

/-- Whoever has just been forked has never been collected. -/
theorem Owns.expects (h : l.Owns k alive) (fresh : k i = none) (free : k.Free pid) :
    l.Expects (k.set i ⟨pid, true, .running⟩) i pid where
  known := ⟨_, Children.set_self .., rfl⟩
  alone j c known same kept := by
    rcases Children.of_set known with ⟨same, _⟩ | ⟨_, known⟩
    · exact same
    · exact nomatch kept.symm.trans (free j c known same)
  uncollected status collected := by
    obtain ⟨c, known, _⟩ := h.settled i status collected
    exact nomatch fresh.symm.trans known

theorem Owns.issue (h : l.Owns k alive) (expects : l.Expects k i handle.pid) :
    (l.issue handle i).Owns k alive where
  settled := h.settled
  known ticket issued := by
    rcases mem_issue.1 issued with issued | rfl
    · exact h.known ticket issued
    · exact expects.known
  own ticket issued status := by
    rcases mem_issue.1 issued with issued | rfl
    · exact h.own ticket issued status
    · have unserved : (l.issue handle i).served? ⟨handle, i, l.collected.length, false⟩ = none :=
        served?_new Nat.le.refl
      rw [unserved]
      exact ⟨nofun, fun collected => absurd collected (expects.uncollected status)⟩
  alone there ticket issued unserved := by
    rcases mem_issue.1 issued with issued | rfl
    · exact h.alone there ticket issued unserved
    · exact expects.alone

theorem Owns.uncollected (h : l.Owns k alive) (known : k i = some c) (ended : c.life = .ended e)
    (status : ExitStatus) : (i, status) ∉ l.collected := by
  intro collected
  obtain ⟨d, known', past⟩ := h.settled i status collected
  cases known.symm.trans known'
  rw [ended] at past
  cases past

/-- A child is collected that has ended, through a table that is there. -/
theorem Owns.collect (h : l.Owns k true) (since : ∀ ticket ∈ l.tickets,
    ticket.since ≤ l.collected.length) (known : k i = some c) (ended : c.life = .ended e) :
    (l.collect i (e.status c.pid)).Owns (k.set i { c with life := .collected e }) true where
  settled j status collected := by
    rcases List.mem_append.1 collected with before | new
    · obtain ⟨d, known', past⟩ := h.settled j status before
      refine ⟨d, ?_, past⟩
      rw [Children.set_of_ne, known']
      rintro rfl
      exact h.uncollected known ended status before
    · cases List.mem_singleton.1 new
      exact ⟨_, Children.set_self .., rfl⟩
  known ticket issued := by
    obtain ⟨d, known', same⟩ := h.known ticket issued
    obtain ⟨d', known', same', _⟩ := (Evolves.collect known ended).on _ d known'
    exact ⟨d', known', same'.trans same⟩
  own ticket issued status := by
    rw [served?_collect (since ticket issued), Ending.pid_status, Ledger.collect, List.mem_append,
      List.mem_singleton, ← h.own ticket issued]
    obtain ⟨d, known', same⟩ := h.known ticket issued
    cases served : l.served? ticket with
    | some first =>
      -- The ticket's child has been collected before, so it is not the one that has just ended.
      have other : ticket.child ≠ i := by
        rintro rfl
        exact h.uncollected known ended first ((h.own ticket issued first).1 served)
      simp [other]
    | none =>
      by_cases mine : ticket.child = i
      · subst mine
        cases known.symm.trans known'
        simp [same, eq_comm]
      · -- The table still waits for this PID, so nobody else can have had it.
        have other : c.pid ≠ ticket.handle.pid := by
          intro same
          refine mine (h.alone rfl ticket issued served i c known same ?_).symm
          rw [ended]
          rfl
        simp [mine, other]
  alone there ticket issued unserved := by
    rw [served?_collect (since ticket issued), Option.or_eq_none_iff] at unserved
    have alone := h.alone rfl ticket issued unserved.1
    exact alone.evolve (.collect known ended) (by simp)

theorem of_mem_drop {ticket : Ticket} {slot : Nat} (h : ticket ∈ (l.drop slot).tickets) :
    ∃ old ∈ l.tickets, ∃ dropped, ticket = { old with dropped } := by
  obtain ⟨n, hn⟩ := List.getElem?_of_mem h
  obtain ⟨old, hold, rfl⟩ := Option.map_eq_some_iff.1 (getElem?_drop.symm.trans hn)
  refine ⟨old, List.mem_of_getElem? hold, ?_⟩
  split
  · exact ⟨true, rfl⟩
  · exact ⟨old.dropped, rfl⟩

theorem Owns.drop (h : l.Owns k alive) (slot : Nat) : (l.drop slot).Owns k alive where
  settled := h.settled
  known ticket issued := by
    obtain ⟨old, before, _, rfl⟩ := of_mem_drop issued
    exact h.known old before
  own ticket issued := by
    obtain ⟨old, before, _, rfl⟩ := of_mem_drop issued
    exact h.own old before
  alone there ticket issued := by
    obtain ⟨old, before, _, rfl⟩ := of_mem_drop issued
    exact h.alone there old before

theorem Owns.mono (h : l.Owns k alive) (before : alive' = true → alive = true) :
    l.Owns k alive' :=
  ⟨h.settled, h.known, h.own, fun there => h.alone (before there)⟩

end Ledger

end PidOne
