import Mathlib.Data.List.Induction
import PidOne.Proofs.Sharing.Sight
import PidOne.Proofs.Sharing.Tracking

/-!
# Dropped handles

A handle can be dropped at any moment after it has been given out. Nobody else notices: the passes,
the map of the table and the answers to all who wait on other handles are the same.
-/

namespace PidOne.Shared

open Kernel

variable {D : Nat → Bool} {s s' t t' : Shared} {e : Event} {es es' : List Event} {n : Nat}
variable {ticket : Ticket} {task : TaskId} {handle : Handle}

def Event.registers : Event → Bool
  | .spawn _ .register => true
  | _ => false

/-- The start that makes this handle has registered it and has given the lock back. -/
def GivenOut (n : Nat) (es : List Event) : Prop :=
  ∃ before task after, es = before ++ .spawn task .register :: after ∧
    before.countP Event.registers = n ∧ .spawn task .unlock ∈ after

/-- The same happens as before, except that of these handles each is dropped at some moment after it
has been given out, or is kept. -/
structure Drops (D : Nat → Bool) (es es' : List Event) : Prop where
  same : apart D es' = apart D es
  dropped : ∀ before e after, es' = before ++ e :: after → e.uses D = true →
    ∃ n, e = .drop n ∧ GivenOut n before ∧ .drop n ∉ before

theorem apart_append (es fs : List Event) : apart D (es ++ fs) = apart D es ++ apart D fs :=
  List.filter_append ..

theorem Inv.length_step (h : s.Inv) (step : Step s e t) :
    t.tickets.length = s.tickets.length + [e].countP Event.registers := by
  cases step with
  | begin | pass | kernel | receive | drop => simp [assign, Event.registers]
  | @spawn task progress child event progress' table child' k busy moves starts =>
    have forked := h.forked busy (Spawning.step_eq_some.1 moves) starts
    cases Spawning.step_eq_some.1 moves with
    | register =>
      obtain ⟨i, rfl⟩ := Option.isSome_iff_exists.1 (forked rfl)
      simp [assign, issue, Event.registers]
    | @unlock answer => cases answer <;> simp [assign, issue, Event.registers]
    | _ => rfl

theorem length_tickets (run : Run Step {} es s) : s.tickets.length = es.countP Event.registers := by
  have counted {u v : Shared} {fs : List Event} (run : Run Step u fs v) (h : u.Inv) :
      v.tickets.length = u.tickets.length + fs.countP Event.registers := by
    induction run with
    | nil => rfl
    | @cons u e v es r step rest ih =>
      rw [ih (h.step step), h.length_step step, Nat.add_assoc, ← List.countP_append]
      rfl
  simpa using counted run .start

/-- The start of this task has registered this handle, and has not given it out or has. -/
def Registered (task : TaskId) (handle : Handle) (s : Shared) : Prop :=
  ∃ progress child, s.tasks task = .starting progress child ∧
    (progress = .leaving (.ok handle) ∨ progress = .done (.ok handle))

def Answered (task : TaskId) (handle : Handle) (s : Shared) : Prop :=
  ∃ child, s.tasks task = .starting (.done (.ok handle)) child

theorem Registered.step (w : Registered task handle s) (h : s.Inv) (step : Step s e t) :
    Registered task handle t := by
  obtain ⟨progress, child, busy, registered⟩ := w
  rcases h.step_of_start busy step with ⟨event, rfl⟩ | ⟨tasks, _⟩
  · cases step with
    | spawn busy' moves =>
      cases busy.symm.trans busy'
      refine ⟨_, _, tasks_assign_self .., ?_⟩
      rcases registered with rfl | rfl
      · cases Spawning.step_eq_some.1 moves with
        | unlock => exact .inr rfl
      · cases Spawning.step_eq_some.1 moves
  · exact ⟨progress, child, tasks.trans busy, registered⟩

theorem Answered.step (w : Answered task handle s) (h : s.Inv) (step : Step s e t) :
    Answered task handle t := by
  obtain ⟨child, busy⟩ := w
  rcases h.step_of_start busy step with ⟨event, rfl⟩ | ⟨tasks, _⟩
  · cases step with
    | spawn busy' moves =>
      cases busy.symm.trans busy'
      cases Spawning.step_eq_some.1 moves
  · exact ⟨child, tasks.trans busy⟩

theorem Registered.unlock (w : Registered task handle s) (step : Step s (.spawn task .unlock) t) :
    Answered task handle t := by
  obtain ⟨progress, child, busy, registered⟩ := w
  cases step with
  | spawn busy' moves =>
    cases busy.symm.trans busy'
    rcases registered with rfl | rfl
    · cases Spawning.step_eq_some.1 moves with
      | unlock => exact ⟨_, tasks_assign_self ..⟩
    · cases Spawning.step_eq_some.1 moves

/-- A start gives its handle the number of handles that there have been before. -/
theorem Inv.registered (h : s.Inv) (step : Step s (.spawn task .register) t) :
    ∃ handle, handle.slot = s.tickets.length ∧ Registered task handle t := by
  cases step with
  | spawn busy moves starts =>
    have fits := h.fits_start busy
    cases Spawning.step_eq_some.1 moves with
    | @register pid =>
      obtain ⟨i, _, unregistered⟩ := fits
      refine ⟨_, ?_, _, _, tasks_assign_self .., .inl rfl⟩
      rw [Table.register_of_waiter?_eq_none (h.waiter?_unregistered unregistered)]
      exact h.agree.length

theorem given_of_givenOut (run : Run Step {} es s) (out : GivenOut n es) :
    ∃ ticket, s.tickets[n]? = some ticket ∧ ticket.custody ≠ .issuing := by
  obtain ⟨before, task, after, rfl, count, unlocks⟩ := out
  obtain ⟨t, t', first, registers, second⟩ := run.split_at
  obtain ⟨handle, slot, registered⟩ := (Inv.run first).registered registers
  rw [length_tickets first, count] at slot
  obtain ⟨until_, since_, rfl⟩ := List.append_of_mem unlocks
  obtain ⟨u, u', third, unlock, fourth⟩ := second.split_at
  have ht' := (Inv.run first).step registers
  have hu := third.keeps (P := fun v => v.Inv ∧ Registered task handle v)
    (fun w step => ⟨w.1.step step, w.2.step w.1 step⟩) ⟨ht', registered⟩
  have answered := hu.2.unlock unlock
  obtain ⟨h, child, busy⟩ := fourth.keeps (P := fun v => v.Inv ∧ Answered task handle v)
    (fun w step => ⟨w.1.step step, w.2.step w.1 step⟩) ⟨hu.1.step unlock, answered⟩
  obtain ⟨i, custody, _, out, given⟩ := h.fits_start busy
  exact ⟨_, slot ▸ given, out⟩

theorem getElem?_of_issue {tickets : List Ticket} {event : Spawning.Event} {progress : Spawning}
    {child : Option ChildId} (given : (issue tickets event progress child)[n]? = some ticket) :
    tickets[n]? = some ticket ∨ ticket.custody = .issuing ∨ ticket.custody = .held := by
  unfold issue at given
  split at given
  · rcases getElem?_concat_eq_some.1 given with old | ⟨_, rfl⟩
    · exact .inl old
    · exact .inr (.inl rfl)
  · rw [List.getElem?_modify, Option.map_eq_map, Option.map_eq_some_iff] at given
    obtain ⟨old, given, rfl⟩ := given
    split
    · exact .inr (.inr rfl)
    · exact .inl given
  · exact .inl given

/-- With a handle that nobody has dropped or waited on nothing has happened. -/
theorem issuing_or_held (run : Run Step {} es s) (unused : ∀ e ∈ es, e.handle? ≠ some n)
    (given : s.tickets[n]? = some ticket) : ticket.custody = .issuing ∨ ticket.custody = .held := by
  have all := run.keeps_along
    (P := fun s => ∀ ticket, s.tickets[n]? = some ticket →
      ticket.custody = .issuing ∨ ticket.custody = .held)
    (Q := fun e => e.handle? ≠ some n) ?_ unused nofun
  · exact all ticket given
  · intro s e t other unused step ticket given
    cases step with
    | begin | pass | kernel => exact unused ticket given
    | spawn => exact (getElem?_of_issue given).elim (unused ticket) id
    | @receive m | @drop m =>
      have apart : m ≠ n := fun same => other (congrArg some same)
      exact unused ticket (by simpa [apart] using given)

theorem Drops.init {fs : List Event} (h : Drops D es (es' ++ [e]))
    (same : apart D es' = apart D fs) : Drops D fs es' where
  same := same
  dropped before e' after split :=
    h.dropped before e' (after ++ [e]) (by rw [split, List.append_assoc, List.cons_append])

/-- Nothing but drops is done with a disregarded handle. -/
theorem Drops.unused (h : Drops D es es') (hn : D n = true) (fresh : .drop n ∉ es') :
    ∀ e ∈ es', e.handle? ≠ some n := by
  intro e he used
  obtain ⟨before, after, split⟩ := List.append_of_mem he
  obtain ⟨m, rfl, _⟩ := h.dropped before e after split (by rw [Event.uses, used]; exact hn)
  cases used
  exact fresh he

theorem exists_run_of_drops (run : Run Step {} es s) (drops : Drops D es es') :
    ∃ s', Run Step {} es' s' ∧ Twin D s s' := by
  induction es' using List.reverseRecOn generalizing es s with
  | nil =>
    have uses : ∀ e ∈ es, e.uses D = true := by simpa [apart] using drops.same.symm
    exact ⟨{}, .nil, (Inv.start.unseen_run run uses).symm⟩
  | append_singleton es' e ih =>
    cases uses : e.uses D with
    | true =>
      have init : Drops D es es' := drops.init (by simpa [apart, uses] using drops.same)
      obtain ⟨s', run', twin⟩ := ih run init
      obtain ⟨n, rfl, out, fresh⟩ := drops.dropped es' e [] rfl uses
      obtain ⟨ticket, given, issued⟩ := given_of_givenOut run' out
      have unused := init.unused uses fresh
      have held := (issuing_or_held run' unused given).resolve_left issued
      have step := Step.drop given held
      exact ⟨_, run'.append (.single step), twin.trans ((Inv.run run').unseen step uses)⟩
    | false =>
      have hes : apart D es = apart D es' ++ [e] := by simpa [apart, uses] using drops.same.symm
      obtain ⟨first, rest, rfl, hfirst, hrest⟩ := List.filter_eq_append_iff.1 hes
      obtain ⟨before, after, rfl, hbefore, _, hafter⟩ := List.filter_eq_cons_iff.1 hrest
      obtain ⟨t, run₁, run₂⟩ := run.split
      obtain ⟨u, v, run₃, step, run₄⟩ := run₂.split_at
      have same : apart D es' = apart D (first ++ before) := by
        have nothing : apart D before = [] := List.filter_eq_nil_iff.2 hbefore
        rw [apart_append, nothing, List.append_nil]
        exact hfirst.symm
      obtain ⟨s', run', twin⟩ := ih (run₁.append run₃) (drops.init same)
      have hu := Inv.run (run₁.append run₃)
      obtain ⟨t', step', twin'⟩ := twin.step hu (Inv.run run') uses step
      have uses : ∀ e ∈ after, e.uses D = true := by simpa using hafter
      have unseen := (hu.step step).unseen_run run₄ uses
      exact ⟨t', run'.append (.single step'), unseen.symm.trans twin'⟩

/-- What is found in both states, whatever has become of the disregarded handles. -/
structure Undisturbed (D : Nat → Bool) (s s' : Shared) : Prop where
  map : s'.table.waiters = s.table.waiters
  tracked : ∀ pid, s'.table.isTracked pid = s.table.isTracked pid
  /-- Each pass has got as far, with the same list. -/
  passes : ∀ task pass ids, s.tasks task = .reaping pass ids →
    ∃ ids', s'.tasks task = .reaping pass ids'
  starts : ∀ task progress child, s.tasks task = .starting progress child →
    ∃ child', s'.tasks task = .starting progress child'
  handles : s'.tickets.map (·.handle) = s.tickets.map (·.handle)
  /-- Waiting on another handle gives the same answer, if it gives one, now and if the table ended
  now. -/
  answers : ∀ (n : Nat) ticket, D n = false → s.tickets[n]? = some ticket →
    s'.table.poll ticket.handle = s.table.poll ticket.handle ∧
      s'.table.close.poll ticket.handle = s.table.close.poll ticket.handle
  /-- Nor is another handle anywhere else, and the answer it has got is the same. -/
  others : ∀ (n : Nat) ticket, D n = false → s.tickets[n]? = some ticket → ∃ child,
    s'.tickets[n]? = some { ticket with child }

theorem Inv.undisturbed (h : s.Inv) (same : LooksLike D s s') : Undisturbed D s s' where
  map := (Table.disregard_eq_iff.1 same.table).2.1
  tracked pid := by
    simp only [Table.isTracked, (Table.disregard_eq_iff.1 same.table).2.1]
  passes _ _ _ busy := same.reaping busy
  starts _ _ _ busy := same.starting busy
  handles := by rw [← map_sight, same.tickets, map_sight]
  answers n ticket hn given := by
    have regarded : D ticket.handle.slot = false := by rw [h.slot_eq given, hn]
    exact ⟨h.poll_eq same given hn, Table.poll_congr (Table.close_congr same.table) regarded⟩
  others n ticket hn given := by
    obtain ⟨ticket', given', handle, custody⟩ := getElem?_of_sight same.tickets given
    refine ⟨ticket'.child, ?_⟩
    rw [given', ← handle, ← custody hn]

/-- How two runs compare in the end and at each moment of the second one. -/
structure Unnoticed (D : Nat → Bool) (es : List Event) (s : Shared) (es' : List Event)
    (s' : Shared) : Prop where
  atEnd : Undisturbed D s s'
  always : ∀ before after, es' = before ++ after → ∃ first rest t t', es = first ++ rest ∧
    Run Step {} first t ∧ Run Step t rest s ∧ Run Step {} before t' ∧ Run Step t' after s' ∧
      Undisturbed D t t'

theorem unnoticed_of_apart (run : Run Step {} es s) (run' : Run Step {} es' s')
    (same : apart D es' = apart D es) : Unnoticed D es s es' s' where
  atEnd := (Inv.run run).undisturbed ((LooksLike.refl {}).run .start .start run run' same)
  always := by
    rintro before after rfl
    rw [apart_append] at same
    obtain ⟨first, rest, rfl, hfirst, _⟩ := List.filter_eq_append_iff.1 same.symm
    obtain ⟨t, run₁, run₂⟩ := run.split
    obtain ⟨t', run₃, run₄⟩ := run'.split
    have alike := (LooksLike.refl {}).run .start .start run₁ run₃ hfirst.symm
    exact ⟨first, rest, t, t', rfl, run₁, run₂, run₃, run₄, (Inv.run run₁).undisturbed alike⟩

theorem drops_unnoticed (run : Run Step {} es s) (D : Nat → Bool) :
    (∀ es' s', Run Step {} es' s' → apart D es' = apart D es → Unnoticed D es s es' s') ∧
    ∀ es', Drops D es es' → ∃ s', Run Step {} es' s' ∧ s'.children = s.children ∧
      Unnoticed D es s es' s' := by
  constructor
  · intro es' s' run' same
    exact unnoticed_of_apart run run' same
  · intro es' drops
    obtain ⟨s', run', twin⟩ := exists_run_of_drops run drops
    exact ⟨s', run', twin.children, unnoticed_of_apart run run' drops.same⟩

/-- One more drop, at a moment when its handle has been given out. -/
theorem Drops.insert (kept : ∀ e ∈ es ++ es', e.uses D = false) (hn : D n = true)
    (out : GivenOut n es) : Drops D (es ++ es') (es ++ .drop n :: es') where
  same := by
    have uses : (Event.drop n).uses D = true := hn
    simp [apart, uses]
  dropped before e after split uses := by
    have unique : before = es ∧ e = .drop n := by
      have others : ¬(e ∈ es ++ es') := fun he => by cases uses.symm.trans (kept e he)
      rcases List.append_eq_append_iff.1 split with ⟨more, rfl, hmore⟩ | ⟨more, rfl, hmore⟩ <;>
        cases more <;> cases hmore <;> simp at others ⊢
    obtain ⟨rfl, rfl⟩ := unique
    refine ⟨n, rfl, out, fun again => ?_⟩
    have unused := kept (.drop n) (List.mem_append_left _ again)
    cases uses.symm.trans unused

/-- Two commands end, and a pass begins. -/
def passBegun : List Event := [
  .begin 0 (.starting .queued none), .spawn 0 .lock, .spawn 0 (.fork (.ok 7)),
  .spawn 0 (.exec none), .spawn 0 .register, .spawn 0 .unlock,
  .begin 1 (.starting .queued none), .spawn 1 .lock, .spawn 1 (.fork (.ok 8)),
  .spawn 1 (.exec none), .spawn 1 .register, .spawn 1 .unlock,
  .kernel (.exit 0 .success), .kernel (.exit 1 .success),
  .begin 2 (.reaping .queued []), .pass 2 .lock]

/-- The pass collects both, and the second handle is waited on. -/
def passMade : List Event := [
  .pass 2 (.wait (.report 7 0)), .pass 2 (.wait (.report 8 0)), .pass 2 (.wait .noChildren),
  .pass 2 .unlock, .receive 1]

theorem drops_unnoticed_amid_pass : ∃ s s', Run Step {} (passBegun ++ passMade) s ∧
    Run Step {} (passBegun ++ .drop 0 :: passMade) s' ∧
      Unnoticed (· == 0) (passBegun ++ passMade) s (passBegun ++ .drop 0 :: passMade) s' ∧
        s.table.slots = [.filled ⟨7, some 0, none⟩, .filled ⟨8, some 0, none⟩] := by
  have run : ∃ s, Run Step {} (passBegun ++ passMade) s ∧
      s.table.slots = [.filled ⟨7, some 0, none⟩, .filled ⟨8, some 0, none⟩] := by
    refine Run.exists_cons (.begin rfl (.inl rfl)) ?_
    refine Run.exists_cons (.spawn rfl rfl .lock) ?_
    refine Run.exists_cons (.spawn rfl rfl (.fork (i := 0) rfl nofun)) ?_
    refine Run.exists_cons (.spawn rfl rfl .exec) ?_
    refine Run.exists_cons (.spawn rfl rfl .register) ?_
    refine Run.exists_cons (.spawn rfl rfl .unlock) ?_
    refine Run.exists_cons (.begin rfl (.inl rfl)) ?_
    refine Run.exists_cons (.spawn rfl rfl .lock) ?_
    refine Run.exists_cons (.spawn rfl rfl (.fork (i := 1) rfl ?_)) ?_
    · intro i c known hpid
      simp only [Shared.assign, Children.set_apply] at known
      grind
    refine Run.exists_cons (.spawn rfl rfl .exec) ?_
    refine Run.exists_cons (.spawn rfl rfl .register) ?_
    refine Run.exists_cons (.spawn rfl rfl .unlock) ?_
    refine Run.exists_cons (.kernel (.exit rfl rfl)) ?_
    refine Run.exists_cons (.kernel (.exit rfl rfl)) ?_
    refine Run.exists_cons (.begin rfl (.inr rfl)) ?_
    refine Run.exists_cons (.pass rfl rfl .lock) ?_
    refine Run.exists_cons (.pass rfl rfl (.wait
      (.ended (i := 0) (c := ⟨7, true, .ended .success⟩) (e := .success) rfl rfl))) ?_
    refine Run.exists_cons (.pass rfl rfl (.wait
      (.ended (i := 1) (c := ⟨8, true, .ended .success⟩) (e := .success) rfl rfl))) ?_
    refine Run.exists_cons (.pass rfl rfl (.wait (.noChildren ?_))) ?_
    · intro i c e known
      simp only [Shared.assign, Children.set_apply] at known
      grind
    refine Run.exists_cons (.pass rfl rfl .unlock) ?_
    exact ⟨_, .single (.receive rfl rfl rfl), rfl⟩
  obtain ⟨s, run, slots⟩ := run
  have drops : Drops (· == 0) (passBegun ++ passMade) (passBegun ++ .drop 0 :: passMade) := by
    refine .insert (by decide) rfl ⟨passBegun.take 4, 0, passBegun.drop 5, rfl, rfl, ?_⟩
    exact .head _
  obtain ⟨s', run', _, unnoticed⟩ := (drops_unnoticed run (· == 0)).2 _ drops
  exact ⟨s, s', run, run', unnoticed, slots⟩

end PidOne.Shared
