import PidOne.Proofs.Reaper.Rounds
import PidOne.Proofs.Sharing.Delivery
import PidOne.Proofs.Supervision.Backing
import PidOne.Proofs.Vigil

/-!
# The tenure of a reaper

A reaper from its creation on, at a table that others have used before and use meanwhile. Whoever
has created it asks it to stop and waits for it, or drops it, at any time.
-/

namespace PidOne

open Kernel

namespace Shared

variable {s s' : Shared} {e : Event} {i : ChildId} {c : Child} {ending : Ending} {self : TaskId}

theorem Step.still_or_reaped (h : Step s e s') (known : s.children i = some c)
    (ended : c.life = .ended ending) :
    s'.children i = some c ∨ s'.children.Reaped i c ending := by
  cases h with
  | spawn _ _ kernel => exact kernel.still_or_reaped known ended
  | pass _ _ kernel => exact kernel.still_or_reaped known ended
  | kernel changes => exact .inl (changes.still known ended)
  | begin | receive | drop => exact .inl known

/-- Waiting for a child that is gone is answered with the status with which it has ended. -/
theorem Inv.answers_of_reaped (h : s.Inv) {ticket : Ticket} (given : ticket ∈ s.tickets)
    (reaped : s.children.Reaped ticket.child c ending) :
    (ticket.custody ≠ .dropped →
      s.table.poll ticket.handle = some (.ok (ending.status c.pid))) ∧
    ∀ answer, ticket.custody = .answered answer → answer = .ok (ending.status c.pid) := by
  obtain ⟨n, hn⟩ := List.getElem?_of_mem given
  obtain ⟨d, slot, b⟩ := h.agree.backs n ticket hn
  have polled (kept : ticket.custody ≠ .dropped) :
      s.table.poll ticket.handle = some (.ok (ending.status c.pid)) := by
    obtain ⟨d', known, poll⟩ := h.agree.poll hn kept
    obtain rfl := Option.some.inj (b.known.symm.trans known)
    rw [poll]
    cases reaped with
    | inl collected =>
      obtain rfl := Option.some.inj (collected.symm.trans known)
      rfl
    | inr discarded =>
      obtain rfl := Option.some.inj (discarded.symm.trans known)
      have settles := b.settles
      generalize ticket.custody = custody at settles kept
      cases settles with
      | waiting gone => cases gone
      | unwanted => exact absurd rfl kept
  refine ⟨polled, fun answer answered => ?_⟩
  have same := (h.poll_of_answered hn answered).symm.trans (polled (by simp [answered]))
  exact Option.some.inj same

theorem assign_comm (s : Shared) {a b : TaskId} (h : a ≠ b) (work work' : Task) :
    (s.assign a work).assign b work' = (s.assign b work').assign a work := by
  simp [assign, Function.update_comm h]

/-- What a task of its own does makes no difference to the steps of the others. -/
theorem Step.beside (h : Step s e s') (idle : s.tasks self = .idle)
    (other : ∀ work, e ≠ .begin self work) (work : Task) :
    Step (s.assign self work) e (s'.assign self work) ∧ s'.tasks self = .idle := by
  have stays {task : TaskId} (hne : self ≠ task) (u : Shared) (w : Task)
      (same : u.tasks = s.tasks) : (u.assign task w).tasks self = .idle := by
    rw [tasks_assign_of_ne _ hne, same, idle]
  cases h with
  | @begin task w idle' new =>
    have hne : self ≠ task := by
      rintro rfl
      exact other w rfl
    refine ⟨?_, stays hne s w rfl⟩
    rw [assign_comm s hne.symm]
    exact .begin (by rw [tasks_assign_of_ne _ hne.symm, idle']) new
  | @spawn task _ _ _ _ _ _ _ busy moves kernel =>
    have hne : self ≠ task := by
      rintro rfl
      cases idle.symm.trans busy
    refine ⟨?_, stays hne _ _ rfl⟩
    rw [assign_comm _ hne.symm]
    exact .spawn (by rw [tasks_assign_of_ne _ hne.symm, busy]) moves kernel
  | @pass task _ _ _ _ _ _ _ busy moves kernel =>
    have hne : self ≠ task := by
      rintro rfl
      cases idle.symm.trans busy
    refine ⟨?_, stays hne _ _ rfl⟩
    rw [assign_comm _ hne.symm]
    exact .pass (by rw [tasks_assign_of_ne _ hne.symm, busy]) moves kernel
  | kernel changes => exact ⟨.kernel changes, idle⟩
  | receive given held answers => exact ⟨.receive given held answers, idle⟩
  | drop given held => exact ⟨.drop given held, idle⟩

end Shared

namespace Reaper

variable {k k' : Children} {e : Event} {i : ChildId} {c : Child} {ending : Ending}
variable {task : TaskId} {t t' : Table} {r r' : Reaper}

theorem Asks.still_or_reaped (h : Asks k e k') (known : k i = some c)
    (ended : c.life = .ended ending) : k' i = some c ∨ k'.Reaped i c ending := by
  cases h with
  | pass passes => exact passes.still_or_reaped known ended
  | rest | wake => exact .inl known

theorem Asks.past (h : Asks k e k') (known : k i = some c) (past : c.life.isOver = true) :
    k' i = some c := by
  cases h with
  | pass passes => exact passes.past known past
  | rest | wake => exact known

theorem willAsk_of_hasEnded (h : r.hasEnded = true) : r.willAsk = false := by
  simp [Reaper.willAsk, hasEnded_iff.1 h]

end Reaper

namespace Tenure

/-- What has become of the reaper's handle. -/
inductive Owner
  | holding
  /-- Waiting in the call that stops the reaper. -/
  | stopping
  | returned
  | dropped

inductive Event
  | own (event : Reaper.Event)
  | others (event : Shared.Event)
  | signal (signal : Signal)
  | stop
  | drop
  | return

def Event.own? : Event → Option Reaper.Event
  | .own event => some event
  | _ => none

end Tenure

structure Tenure where
  shared : Shared
  reaper : Reaper
  owner : Tenure.Owner := .holding

namespace Tenure

def start (shared : Shared) (interval : Nat) : Tenure := { shared, reaper := { interval } }

inductive Step (self : TaskId) (s : Tenure) : Event → Tenure → Prop
  | own (moves : s.reaper.step self s.shared.table e = some (r', t'))
    (kernel : Reaper.Asks s.shared.children e k') :
    Step self s (.own e)
      { s with shared := { s.shared with table := t', children := k' }, reaper := r' }
  | others (other : ∀ work, e ≠ .begin self work) (step : Shared.Step s.shared e shared') :
    Step self s (.others e) { s with shared := shared' }
  | signal : Step self s (.signal x) { s with reaper := s.reaper.arrive x }
  | stop (there : s.owner = .holding) :
    Step self s .stop { s with reaper := s.reaper.requestStop, owner := .stopping }
  | drop (there : s.owner = .holding ∨ s.owner = .stopping) :
    Step self s .drop { s with reaper := s.reaper.requestStop, owner := .dropped }
  | return (asked : s.owner = .stopping) (ended : s.reaper.hasEnded = true) :
    Step self s .return { s with owner := .returned }

def Fails (e : Event) : Prop := ∃ number, e = .own (.pass (.wait (.failed number)))

variable {self : TaskId} {s s' : Tenure} {shared : Shared} {e : Event} {es : List Event}
variable {interval : Nat} {i : ChildId} {c : Child} {ending : Ending}

/-- What the task itself does in a run is a run of its own. -/
theorem turns_of_run (run : Run (Step self) s es s') :
    Run Reaper.Activity.Turns s.reaper.activity (es.filterMap Event.own?) s'.reaper.activity := by
  apply run.project fun s => s.reaper.activity
  · intro s e e' t step own
    cases step with
    | own moves => cases own; exact (Reaper.Moves.of_step moves).turns
    | others | signal | stop | drop | «return» => cases own
  · intro s e t step other
    cases step with
    | own => cases other
    | signal => exact Reaper.arrive_activity ..
    | others | stop | drop | «return» => rfl

/-- The table and its users, the task of the reaper among them. -/
def whole (self : TaskId) (s : Tenure) (collected : List ChildId) : Shared :=
  s.shared.assign self (Supervision.reaping collected (some s.reaper))

structure Sound (task : TaskId) (s : Tenure) : Prop where
  idle : s.shared.tasks task = .idle
  inv : ∃ collected, (s.whole task collected).Inv

theorem Sound.start (h : shared.Inv) (idle : shared.tasks self = .idle) (interval : Nat) :
    Sound self (start shared interval) :=
  ⟨idle, [], h.step (.begin idle (.inr rfl))⟩

theorem Sound.same (h : Sound self s) {r : Reaper} (same : r.activity = s.reaper.activity)
    (owner : Owner) : Sound self { s with reaper := r, owner } := by
  obtain ⟨collected, inv⟩ := h.inv
  refine ⟨h.idle, collected, ?_⟩
  rw [whole, Supervision.reaping, Option.map_some] at inv ⊢
  rwa [same]

theorem Sound.step (h : Sound self s) (step : Step self s e s') : Sound self s' := by
  cases step with
  | others other step =>
    obtain ⟨collected, inv⟩ := h.inv
    obtain ⟨step', idle⟩ := step.beside h.idle other _
    exact ⟨idle, collected, inv.step step'⟩
  | signal => exact h.same (Reaper.arrive_activity ..) _
  | stop | drop => exact h.same (r := s.reaper.requestStop) rfl _
  | «return» => exact h.same (r := s.reaper) rfl _
  | own moves kernel =>
    obtain ⟨collected, inv⟩ := h.inv
    refine ⟨h.idle, ?_⟩
    cases Reaper.Moves.of_step moves with
    | @pass _ _ _ p busy moves =>
      cases kernel with
      | @pass _ child _ passes =>
        have ready : (s.whole self collected).tasks self = .reaping p collected := by
          simp [whole, Supervision.reaping, busy]
        have next := inv.step (.pass ready (Pass.step_eq_some.2 moves) passes)
        refine ⟨collected ++ child.toList, ?_⟩
        simpa [whole, Supervision.reaping, Shared.assign] using next
    | rest busy =>
      cases kernel
      have outside : ((s.whole self collected).tasks self).isInside = false := by
        simp [whole, Supervision.reaping, busy, Shared.Task.isInside, Pass.isInside]
      refine ⟨collected, ?_⟩
      simpa [whole, Supervision.reaping, Shared.assign] using inv.retire outside
    | stop idle =>
      cases kernel
      refine ⟨collected, ?_⟩
      simpa [whole, Supervision.reaping, idle] using inv
    | timer idle | childEnded idle =>
      cases kernel
      have ready : (s.whole self collected).tasks self = .idle := by
        simp [whole, Supervision.reaping, idle]
      have next := inv.step (.begin ready (.inr rfl))
      refine ⟨[], ?_⟩
      simpa [whole, Supervision.reaping, Shared.assign] using next

theorem Step.past (step : Step self s e s') {d : Child} (known : s.shared.children i = some d)
    (past : d.life.isOver = true) : s'.shared.children i = some d := by
  cases step with
  | own _ kernel => exact kernel.past known past
  | others _ step => exact step.persists.past i d known past
  | signal | stop | drop | «return» => exact known

/-- A child that ended before there was the reaper: it is gone, or the task has still to ask. -/
def Meets (s : Tenure) (i : ChildId) (c : Child) (ending : Ending) : Prop :=
  s.shared.children.Reaped i c ending ∨
    s.shared.children i = some c ∧ s.reaper.willAsk = true

theorem Meets.step (h : s.Meets i c ending) (ended : c.life = .ended ending) (sound : ¬Fails e)
    (step : Step self s e s') : s'.Meets i c ending := by
  cases h with
  | inl reaped => exact .inl (reaped.mono fun _ known past => step.past known past)
  | inr asks =>
    obtain ⟨known, asks⟩ := asks
    cases step with
    | own moves kernel =>
      refine (kernel.still_or_reaped known ended).symm.imp_right fun still => ⟨still, ?_⟩
      have sound' := fun number h => sound ⟨number, congrArg Event.own h⟩
      exact (Reaper.Moves.of_step moves).willAsk kernel sound' ⟨c, ending, still, ended⟩ asks
    | others _ step =>
      exact (step.still_or_reaped known ended).symm.imp_right fun still => ⟨still, asks⟩
    | signal => exact .inr ⟨known, (Reaper.willAsk_arrive ..).trans asks⟩
    | stop | drop | «return» => exact .inr ⟨known, asks⟩

/-- Only its owner asks a reaper to stop. -/
theorem asked_of_run (run : Run (Step self) (start shared interval) es s)
    (asked : s.reaper.stopRequested = true) : .stop ∈ es ∨ .drop ∈ es := by
  obtain ⟨before, e, after, t, t', rfl, _, unasked, step, asked', _⟩ :=
    run.since (P := fun s => s.reaper.stopRequested = true) nofun asked
  cases step with
  | stop => exact .inl (by simp)
  | drop => exact .inr (by simp)
  | own moves => exact absurd ((Reaper.Moves.of_step moves).stopRequested ▸ asked') unasked
  | signal => exact absurd (Reaper.arrive_stopRequested .. ▸ asked') unasked
  | others | «return» => exact absurd asked' unasked

theorem requested_of_ended (run : Run (Step self) (start shared interval) es s)
    (ended : s.reaper.hasEnded = true) : s.reaper.stopRequested = true := by
  refine run.keeps (P := fun s => s.reaper.hasEnded = true → s.reaper.stopRequested = true)
    ?_ nofun ended
  intro s e s' h step ended
  cases step with
  | own moves =>
    have moves := Reaper.Moves.of_step moves
    exact moves.stopRequested.trans (moves.hasEnded ended)
  | signal =>
    rw [Reaper.hasEnded_arrive] at ended
    exact (Reaper.arrive_stopRequested ..).trans (h ended)
  | stop | drop => rfl
  | others | «return» => exact h ended

/-- Stopping returns no sooner than the task has ended. -/
theorem ended_of_returned (run : Run (Step self) (start shared interval) es s)
    (returned : s.owner = .returned) : s.reaper.hasEnded = true := by
  refine run.keeps (P := fun s => s.owner = .returned → s.reaper.hasEnded = true) ?_ nofun returned
  intro s e s' h step returned
  cases step with
  | own moves =>
    exact absurd (h returned) (Bool.eq_false_iff.1 (Reaper.Moves.of_step moves).goesOn)
  | others => exact h returned
  | signal => exact (Reaper.hasEnded_arrive ..).trans (h returned)
  | stop | drop => cases returned
  | «return» _ ended => exact ended

/-- What a reaper has done until now that was created while this was so. -/
structure Serves (shared : Shared) (es : List Event) (s : Tenure) : Prop where
  /-- It does not end before it has made a whole pass. -/
  first : s.reaper.hasEnded = true → ∃ answers now rest, WaitAnswer.Closed answers ∧
    es.filterMap Event.own? = (Pass.course answers).map .pass ++ .rest now :: rest
  /-- From one idle wait to the next one it makes one whole pass. -/
  between : ∀ before now mid now' after,
    es = before ++ .own (.rest now) :: (mid ++ .own (.rest now') :: after) →
    (∀ e ∈ mid.filterMap Event.own?, ¬e.IsRest) →
    ∃ reason answers, reason ≠ .stop ∧ WaitAnswer.Closed answers ∧
      mid.filterMap Event.own? = .wake reason :: (Pass.course answers).map .pass
  /-- It ends only when it is asked to, or dropped. -/
  asked : s.reaper.hasEnded = true → .stop ∈ es ∨ .drop ∈ es
  /-- Once the task has ended, or stopping has returned, it does nothing any more. -/
  ended : ∀ before e after, es = before ++ e :: after → e = .own (.wake .stop) ∨ e = .return →
    after.filterMap Event.own? = []
  /-- By then every child is gone that ended before there was the reaper, and waiting for it is
  answered. -/
  collected : s.reaper.hasEnded = true ∨ s.owner = .returned →
    ∀ i c ending, shared.children i = some c → c.life = .ended ending →
      s.shared.children.Reaped i c ending ∧
      ∀ ticket ∈ s.shared.tickets, ticket.child = i →
        (ticket.custody ≠ .dropped →
          s.shared.table.poll ticket.handle = some (.ok (ending.status c.pid))) ∧
        ∀ answer, ticket.custody = .answered answer → answer = .ok (ending.status c.pid)

theorem serves_until_asked {past : List Shared.Event} (before : Run Shared.Step {} past shared)
    (idle : shared.tasks self = .idle) (run : Run (Step self) (start shared interval) es s)
    (sound : ∀ e ∈ es, ¬Fails e) : Serves shared es s where
  first ended := by
    have turns := turns_of_run run
    rw [Reaper.hasEnded_iff.1 ended] at turns
    exact Reaper.Activity.course_of_ended turns
  between := by
    rintro before now mid now' after rfl busy
    obtain ⟨t, t', _, rest, run⟩ := run.split_at
    obtain ⟨u, u', run, rest', _⟩ := run.split_at
    have turns := turns_of_run run
    cases rest with
    | own moves =>
      cases rest' with
      | own moves' =>
        cases Reaper.Moves.of_step moves with
        | rest =>
          cases Reaper.Moves.of_step moves' with
          | rest done =>
            rw [done] at turns
            exact Reaper.Activity.course_of_idle turns busy
  asked ended := asked_of_run run (requested_of_ended run ended)
  ended := by
    rintro before e after rfl ends
    obtain ⟨t, t', _, step, run⟩ := run.split_at
    have turns := turns_of_run run
    have isOver : t'.reaper.activity = .ended := by
      rcases ends with rfl | rfl
      · cases step with
        | own moves =>
          cases Reaper.Moves.of_step moves
          rfl
      · cases step with
        | «return» _ ended => exact Reaper.hasEnded_iff.1 ended
    rw [isOver] at turns
    exact Reaper.Activity.eq_nil_of_ended turns
  collected stopped i c ending known ended := by
    have hasEnded : s.reaper.hasEnded = true := stopped.elim id (ended_of_returned run)
    have meets : s.Meets i c ending :=
      run.keeps_along (P := fun s => s.Meets i c ending)
        (fun sound h step => h.step ended sound step) sound (.inr ⟨known, rfl⟩)
    have reaped : s.shared.children.Reaped i c ending := by
      refine meets.resolve_right fun asks => ?_
      simp [Reaper.willAsk_of_hasEnded hasEnded] at asks
    have holds : Sound self s :=
      run.keeps (P := Sound self) (fun h step => h.step step) (.start (.run before) idle interval)
    obtain ⟨collected, inv⟩ := holds.inv
    exact ⟨reaped, fun ticket given mine => inv.answers_of_reaped given (mine ▸ reaped)⟩

/-- A command that ends before there is the reaper, and is waited for. -/
def early : List Shared.Event := [
  .begin 0 (.starting .queued none), .spawn 0 .lock, .spawn 0 (.fork (.ok 7)),
  .spawn 0 (.exec none), .spawn 0 .register, .spawn 0 .unlock, .kernel (.exit 0 .success)]

/-- The reaper is asked to stop before its task first runs, and a signal is not what ends its
wait. -/
def brief : List Event := [
  .stop, .own (.pass .lock), .own (.pass (.wait .interrupted)),
  .own (.pass (.wait (.report 7 0))), .own (.pass (.wait .noChildren)), .own (.pass .unlock),
  .own (.rest 0), .signal Signal.child, .own (.wake .stop), .return, .others (.receive 0)]

/-- How the reaper finds its table. -/
def found (tasks : TaskId → Shared.Task) : Shared where
  table := { waiters := [(7, 0)], slots := [.waiting] }
  children := Children.set (fun _ => none) 0 ⟨7, true, .ended .success⟩
  tasks := tasks
  tickets := [⟨⟨7, 0⟩, 0, .held⟩]

theorem run_early : ∃ tasks, Run Shared.Step {} early (found tasks) ∧ tasks 1 = .idle := by
  have run : ∃ s, Run Shared.Step {} early s ∧ s.table = (found s.tasks).table ∧
      s.children = (found s.tasks).children ∧ s.tickets = (found s.tasks).tickets ∧
      s.tasks 1 = .idle := by
    refine Run.exists_cons (.begin rfl (.inl rfl)) ?_
    refine Run.exists_cons (.spawn rfl rfl .lock) ?_
    refine Run.exists_cons (.spawn rfl rfl (.fork (i := 0) rfl nofun)) ?_
    refine Run.exists_cons (.spawn rfl rfl .exec) ?_
    refine Run.exists_cons (.spawn rfl rfl .register) ?_
    refine Run.exists_cons (.spawn rfl rfl .unlock) ?_
    refine Run.exists_cons (.kernel (.exit rfl rfl)) ?_
    exact ⟨_, .nil, rfl, Children.set_set .., rfl, rfl⟩
  obtain ⟨s, run, table, children, tickets, idle⟩ := run
  have same : found s.tasks = s := by
    cases s
    simp_all [found]
  exact ⟨s.tasks, by rwa [same], idle⟩

theorem run_brief (tasks : TaskId → Shared.Task) :
    ∃ s, Run (Step 1) (start (found tasks) 1000) brief s ∧ s.owner = .returned ∧
      s.shared.tickets = [⟨⟨7, 0⟩, 0, .answered (.ok ⟨7, some 0, none⟩)⟩] := by
  refine Run.exists_cons (.stop rfl) ?_
  refine Run.exists_cons (.own rfl (.pass .lock)) ?_
  refine Run.exists_cons (.own rfl (.pass (.wait .interrupted))) ?_
  refine Run.exists_cons (.own rfl (.pass (.wait
    (.ended (i := 0) (c := ⟨7, true, .ended .success⟩) (e := .success) rfl rfl)))) ?_
  refine Run.exists_cons (.own rfl (.pass (.wait (.noChildren ?_)))) ?_
  · intro i c e known ended
    simp only [start, found, Children.set_apply] at known
    split at known <;> cases known
    cases ended
  refine Run.exists_cons (.own rfl (.pass .unlock)) ?_
  refine Run.exists_cons (.own rfl .rest) ?_
  refine Run.exists_cons .signal ?_
  refine Run.exists_cons (.own rfl .wake) ?_
  refine Run.exists_cons (.return rfl rfl) ?_
  refine Run.exists_cons (.others nofun (.receive rfl rfl rfl)) ?_
  exact ⟨_, .nil, rfl, rfl⟩

theorem serves_until_asked_early : ∃ tasks s, Run Shared.Step {} early (found tasks) ∧
    (found tasks).tasks 1 = .idle ∧ Run (Step 1) (start (found tasks) 1000) brief s ∧
    (∀ e ∈ brief, ¬Fails e) ∧ Serves (found tasks) brief s ∧ s.owner = .returned ∧
    s.shared.tickets = [⟨⟨7, 0⟩, 0, .answered (.ok ⟨7, some 0, none⟩)⟩] := by
  obtain ⟨tasks, before, idle⟩ := run_early
  obtain ⟨s, run, returned, tickets⟩ := run_brief tasks
  have sound : ∀ e ∈ brief, ¬Fails e := by simp [brief, Fails]
  exact ⟨tasks, s, before, idle, run, sound, serves_until_asked before idle run sound, returned,
    tickets⟩

end Tenure

end PidOne
