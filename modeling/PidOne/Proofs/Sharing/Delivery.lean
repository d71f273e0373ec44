import PidOne.Proofs.Sharing.Preservation

/-!
# The delivery of statuses

However starts, passes, exits and orphans come, the status of a child reaches the handle of this
child, once, and nothing else does.
-/

namespace PidOne.Shared

open Kernel

variable {s s' : Shared} {task : TaskId} {es : List Event} {e : Event} {i : ChildId} {c : Child}
variable {n : Nat} {ticket : Ticket} {ending : Ending}

/-- On the way to this state the kernel has told a pass how this child ended, and by this the pass
has collected the child. -/
def Reported (es : List Event) (s : Shared) (i : ChildId) (c : Child) (e : Ending) : Prop :=
  ∃ before task after t t', es = before ++ .pass task (.wait (.report c.pid e.raw)) :: after ∧
    Run Step {} before t ∧ Step t (.pass task (.wait (.report c.pid e.raw))) t' ∧
      Run Step t' after s ∧ t.children i = some { c with life := .ended e } ∧
        t'.children i = some c

/-- What has become of the statuses after a run with these events. -/
structure Delivery (es : List Event) (s : Shared) : Prop where
  /-- A start answers with the handle of the child it has forked. -/
  started : ∀ task handle child, s.tasks task = .starting (.done (.ok handle)) child →
    ∃ i custody, child = some i ∧ s.tickets[handle.slot]? = some ⟨handle, i, custody⟩
  /-- No handle is of an orphan or of a child with another PID. -/
  owned : ∀ (n : Nat) ticket, s.tickets[n]? = some ticket → ∃ c, s.children ticket.child = some c ∧
    c.own = true ∧ c.pid = ticket.handle.pid
  /-- No two handles are of one child. -/
  apart : ∀ (m n : Nat) a b, s.tickets[m]? = some a → s.tickets[n]? = some b →
    a.child = b.child → m = n
  /-- Waiting answers from the moment on at which the child is collected, and it answers with the
  child's status. -/
  answers : ∀ (n : Nat) ticket answer, s.tickets[n]? = some ticket → ticket.custody ≠ .dropped →
    (s.table.poll ticket.handle = some answer ↔ ∃ c e status,
      s.children ticket.child = some c ∧ c.life = .collected e ∧
        ExitStatus.ofRaw? ticket.handle.pid e.raw = some status ∧
          status.pid = ticket.handle.pid ∧ answer = .ok status)
  /-- An answer that has been given is still the one to give. -/
  answered : ∀ (n : Nat) ticket answer, s.tickets[n]? = some ticket →
    ticket.custody = .answered answer → s.table.poll ticket.handle = some answer
  reported : ∀ i c e, s.children i = some c → c.life = .collected e → Reported es s i c e
  /-- Each status on the list of a pass is that of one child, which is on no list again. -/
  listed : ∀ task pass ids, s.tasks task = .reaping pass ids →
    ids.Nodup ∧ List.Forall₂ s.Yields ids pass.statuses
  once : ∀ a b i, i ∈ (s.tasks a).collected → i ∈ (s.tasks b).collected → a = b

theorem Step.of_collected (h : Step s e s') (known : s'.children i = some c)
    (life : c.life = .collected ending) (new : s.children i ≠ some c) :
    ∃ task, e = .pass task (.wait (.report c.pid ending.raw)) ∧
      s.children i = some { c with life := .ended ending } := by
  cases h with
  | spawn _ _ kernel => exact absurd (kernel.of_collected known life) new
  | kernel changes => exact absurd (changes.of_collected known life) new
  | pass _ _ kernel =>
    rcases kernel.of_collected known life with old | ⟨rfl, _, ended⟩
    · exact absurd old new
    · exact ⟨_, rfl, ended⟩
  | _ => exact absurd known new

theorem reported_of_collected (run : Run Step {} es s) (known : s.children i = some c)
    (life : c.life = .collected ending) : Reported es s i c ending := by
  have start : ({} : Shared).children i ≠ some c := nofun
  obtain ⟨before, e, after, t, t', rfl, first, new, step, known', second⟩ :=
    run.since (P := fun s => s.children i = some c) start known
  obtain ⟨task, rfl, ended⟩ := step.of_collected known' life new
  exact ⟨before, task, after, t, t', rfl, first, step, second.mono fun h => h.2.1, ended, known'⟩

theorem answer?_eq_some_iff {pid : Pid} {life : Life} {answer : Except Failure ExitStatus} :
    life.answer? pid = some answer ↔ ∃ e status, life = .collected e ∧
      ExitStatus.ofRaw? pid e.raw = some status ∧ status.pid = pid ∧ answer = .ok status := by
  cases life <;> simp [Life.answer?, eq_comm]

theorem Inv.poll_iff (h : s.Inv) (given : s.tickets[n]? = some ticket)
    (kept : ticket.custody ≠ .dropped) (answer : Except Failure ExitStatus) :
    s.table.poll ticket.handle = some answer ↔ ∃ c e status,
      s.children ticket.child = some c ∧ c.life = .collected e ∧
        ExitStatus.ofRaw? ticket.handle.pid e.raw = some status ∧
          status.pid = ticket.handle.pid ∧ answer = .ok status := by
  obtain ⟨c, slot, b⟩ := h.agree.backs n ticket given
  obtain ⟨c', known, poll⟩ := h.agree.poll given kept
  obtain rfl := Option.some.inj (b.known.symm.trans known)
  rw [poll, answer?_eq_some_iff, b.pid]
  simp [known]

theorem Inv.poll_of_answered (h : s.Inv) (given : s.tickets[n]? = some ticket)
    {answer : Except Failure ExitStatus} (answered : ticket.custody = .answered answer) :
    s.table.poll ticket.handle = some answer := by
  obtain ⟨c, slot, b⟩ := h.agree.backs n ticket given
  rw [Table.poll, b.number, b.stands]
  exact (answered ▸ b.settles).answered _

theorem delivered_exactly_once (run : Run Step {} es s) : Delivery es s where
  started task handle child busy := by
    obtain ⟨i, custody, hi, _, given⟩ := (Inv.run run).fits_start busy
    exact ⟨i, custody, hi, given⟩
  owned n ticket given := by
    obtain ⟨c, slot, b⟩ := (Inv.run run).agree.backs n ticket given
    exact ⟨c, b.known, b.own, b.pid⟩
  apart := (Inv.run run).agree.distinct
  answers n ticket answer given kept := (Inv.run run).poll_iff given kept answer
  answered n ticket answer given answered := (Inv.run run).poll_of_answered given answered
  reported i c e known life := reported_of_collected run known life
  listed _ _ _ busy := (Inv.run run).fits_pass busy
  once := (Inv.run run).once

/-- A child that ends before it is registered, and is waited for as soon as it is collected. -/
def shortLived : List Event := [
  .begin 0 (.starting .queued none), .spawn 0 .lock, .spawn 0 (.fork (.ok 7)),
  .kernel (.exit 0 .success), .spawn 0 (.exec none), .spawn 0 .register, .spawn 0 .unlock,
  .begin 1 (.reaping .queued []), .pass 1 .lock, .pass 1 (.wait (.report 7 0)), .receive 0]

theorem delivered_exactly_once_of_shortLived : ∃ s, (Run Step {} shortLived s ∧
    Delivery shortLived s) ∧ s.tickets = [⟨⟨7, 0⟩, 0, .answered (.ok ⟨7, some 0, none⟩)⟩] := by
  have run : ∃ s, Run Step {} shortLived s ∧
      s.tickets = [⟨⟨7, 0⟩, 0, .answered (.ok ⟨7, some 0, none⟩)⟩] := by
    refine Run.exists_cons (.begin rfl (.inl rfl)) ?_
    refine Run.exists_cons (.spawn rfl rfl .lock) ?_
    refine Run.exists_cons (.spawn rfl rfl (.fork (i := 0) rfl nofun)) ?_
    refine Run.exists_cons (.kernel (.exit rfl rfl)) ?_
    refine Run.exists_cons (.spawn rfl rfl .exec) ?_
    refine Run.exists_cons (.spawn rfl rfl .register) ?_
    refine Run.exists_cons (.spawn rfl rfl .unlock) ?_
    refine Run.exists_cons (.begin rfl (.inr rfl)) ?_
    refine Run.exists_cons (.pass rfl rfl .lock) ?_
    refine Run.exists_cons (.pass rfl rfl (.wait
      (.ended (i := 0) (c := ⟨7, true, .ended .success⟩) (e := .success) rfl rfl))) ?_
    exact ⟨_, .single (.receive rfl rfl rfl), rfl⟩
  obtain ⟨s, run, tickets⟩ := run
  exact ⟨s, ⟨run, delivered_exactly_once run⟩, tickets⟩

end PidOne.Shared
