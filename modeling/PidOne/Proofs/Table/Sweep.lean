import PidOne.Proofs.Run
import PidOne.Proofs.Sharing.Invariant
import PidOne.Proofs.Table.Handover

/-!
# Whole passes

A pass from when it takes the lock until it gives it back. It asks until an answer closes it, and
what it lists and hands over is what the answers before have reported. Beside the kernel it leaves
no child that has ended before it asks for the last time.
-/

namespace PidOne

open Kernel

/-- The last of these answers closes, and no other does. -/
inductive WaitAnswer.Closed : List WaitAnswer → Prop
  | close (closes : a.closes = true) : Closed [a]
  | goOn (open_ : a.closes = false) (rest : Closed as) : Closed (a :: as)

namespace WaitAnswer

variable {answer : WaitAnswer} {first last : List WaitAnswer}

theorem closed_cons_of_open (open_ : answer.closes = false) :
    Closed (answer :: last) ↔ Closed last := by
  constructor
  · intro closed
    cases closed with
    | close closes => simp [open_] at closes
    | goOn _ rest => exact rest
  · exact .goOn open_

theorem closed_append (more : last ≠ []) :
    Closed (first ++ last) ↔ (∀ a ∈ first, a.closes = false) ∧ Closed last := by
  induction first with
  | nil => simp
  | cons a first ih =>
    rw [List.cons_append, List.forall_mem_cons, and_assoc, ← ih]
    constructor
    · intro closed
      cases h : first ++ last with
      | nil => simp [more] at h
      | cons b bs =>
        rw [h] at closed
        cases closed with
        | goOn open_ rest => exact ⟨open_, rest⟩
    · rintro ⟨open_, rest⟩
      exact .goOn open_ rest

end WaitAnswer

namespace Pass

/-- The steps of a pass whatever the table is. -/
def Turns (p : Pass) (e : Event) (p' : Pass) : Prop := ∃ task t t', Moves task t p e p' t'

/-- The steps of a pass at a table that nobody else uses meanwhile. -/
def Steps (task : TaskId) (x : Pass × Table) (e : Event) (y : Pass × Table) : Prop :=
  x.1.step task x.2 e = some y

/-- What a pass does that gets these answers. -/
def course (answers : List WaitAnswer) : List Event := .lock :: (answers.map .wait ++ [.unlock])

variable {task : TaskId} {t t' : Table} {p p' : Pass} {e : Event} {es : List Event}
variable {statuses found : List ExitStatus} {answers : List WaitAnswer} {answer : WaitAnswer}

/-- The status that a pass gets to know in this step. -/
def Event.reported? : Event → Option ExitStatus
  | .wait answer => answer.status?
  | .lock | .unlock => none

theorem Moves.statuses_eq (h : Moves task t p e p' t') :
    p'.statuses = p.statuses ++ e.reported?.toList := by
  cases h with
  | collect reported => simp [Pass.statuses, Event.reported?, reported]
  | skip silent => simp [Pass.statuses, Event.reported?, silent]
  | close closes =>
    simp [Pass.statuses, Event.reported?, WaitAnswer.status?_eq_none_of_closes closes]
  | lock | unlock => simp [Pass.statuses, Event.reported?]

theorem steps_iff : Steps task (p, t) e (p', t') ↔ Moves task t p e p' t' := step_eq_some

theorem Steps.turns {x y : Pass × Table} (h : Steps task x e y) : Turns x.1 e y.1 :=
  ⟨task, x.2, y.2, steps_iff.1 h⟩

theorem Steps.deterministic {x y y' : Pass × Table} (h : Steps task x e y)
    (h' : Steps task x e y') : y = y' := Option.some.inj (h.symm.trans h')

theorem closed_of_run (run : Run Turns (.collecting found) es (.done statuses)) :
    ∃ answers, WaitAnswer.Closed answers ∧ es = answers.map .wait ++ [.unlock] := by
  induction es generalizing found with
  | nil => cases run
  | cons e es ih =>
    cases run with
    | cons turn rest =>
      obtain ⟨_, _, _, moves⟩ := turn
      cases moves with
      | @collect _ _ answer reported =>
        obtain ⟨answers, closed, rfl⟩ := ih rest
        refine ⟨answer :: answers, .goOn ?_ closed, rfl⟩
        by_contra closes
        rw [Bool.not_eq_false] at closes
        cases (WaitAnswer.status?_eq_none_of_closes closes).symm.trans reported
      | @skip _ answer _ goesOn =>
        obtain ⟨answers, closed, rfl⟩ := ih rest
        exact ⟨answer :: answers, .goOn goesOn closed, rfl⟩
      | @close _ answer closes =>
        refine ⟨[answer], .close closes, ?_⟩
        cases rest with
        | cons turn last =>
          obtain ⟨_, _, _, moves⟩ := turn
          cases moves
          cases last with
          | nil => rfl
          | cons turn _ =>
            obtain ⟨_, _, _, moves⟩ := turn
            cases moves

/-- A pass is over when it has got the lock, an answer that closes, and has given the lock back. -/
theorem course_of_run (run : Run Turns .queued es (.done statuses)) :
    ∃ answers, WaitAnswer.Closed answers ∧ es = course answers := by
  cases run with
  | cons turn rest =>
    obtain ⟨_, _, _, moves⟩ := turn
    cases moves
    obtain ⟨answers, closed, rfl⟩ := closed_of_run rest
    exact ⟨answers, closed, rfl⟩

theorem run_of_closed (closed : WaitAnswer.Closed answers) (found : List ExitStatus) (t : Table)
    (held : t.holder = some task) :
    Run (Steps task) (.collecting found, t) (answers.map .wait ++ [.unlock])
      (.done (found ++ answers.filterMap WaitAnswer.status?),
        { t.collectAll (answers.filterMap WaitAnswer.status?) with holder := none }) := by
  induction closed generalizing found t with
  | @close answer closes =>
    have silent := WaitAnswer.status?_eq_none_of_closes closes
    refine .cons (steps_iff.2 (.close closes)) (.single (steps_iff.2 ?_))
    simpa [silent] using Moves.unlock held
  | @goOn answers answer goesOn _ ih =>
    cases reported : answer.status? with
    | none =>
      rw [List.filterMap_cons_none reported]
      exact .cons (steps_iff.2 (.skip reported goesOn)) (ih found t held)
    | some status =>
      have later := ih (found ++ [status]) (t.collect status) (by simp [held])
      rw [List.append_assoc, List.singleton_append] at later
      rw [List.filterMap_cons_some reported]
      exact .cons (steps_iff.2 (.collect reported)) later

/-- Just the answers of which the last one and no other closes make a whole pass. -/
theorem run_iff (free : t.holder = none) :
    Run (Steps task) (.queued, t) es (.done statuses, t') ↔ ∃ answers,
      WaitAnswer.Closed answers ∧ es = course answers ∧
        statuses = answers.filterMap WaitAnswer.status? ∧ t' = t.collectAll statuses := by
  have whole {answers : List WaitAnswer} (closed : WaitAnswer.Closed answers) :
      Run (Steps task) (.queued, t) (course answers) (.done (answers.filterMap WaitAnswer.status?),
        t.collectAll (answers.filterMap WaitAnswer.status?)) := by
    have collected := run_of_closed closed [] { t with holder := some task } rfl
    rw [Table.collectAll_hold, ← free, ← Table.holder_collectAll t] at collected
    exact .cons (steps_iff.2 (.lock free)) collected
  constructor
  · intro run
    obtain ⟨answers, closed, rfl⟩ := course_of_run (run.map Prod.fst Steps.turns)
    have same : (Pass.done statuses, t') = _ :=
      Run.deterministic (fun h h' => h.deterministic h') run (whole closed)
    cases same
    exact ⟨answers, closed, rfl, rfl, rfl⟩
  · rintro ⟨answers, closed, rfl, rfl, rfl⟩
    exact whole closed

theorem course_injective : Function.Injective course := by
  intro as bs same
  have waits := List.append_cancel_right (List.cons.inj same).2
  exact List.map_injective_iff.2 (fun _ _ h => Event.wait.inj h) waits

theorem run_course_iff (free : t.holder = none) :
    Run (Steps task) (.queued, t) (course answers) (.done statuses, t') ↔
      WaitAnswer.Closed answers ∧ statuses = answers.filterMap WaitAnswer.status? ∧
        t' = t.collectAll statuses := by
  rw [run_iff free]
  constructor
  · rintro ⟨answers', closed, same, rest⟩
    obtain rfl := course_injective same
    exact ⟨closed, rest⟩
  · rintro ⟨closed, rest⟩
    exact ⟨answers, closed, rfl, rest⟩

/-- What neither reports an end nor closes makes no difference to a pass, wherever it comes. -/
theorem run_insert_iff {first last : List WaitAnswer} (free : t.holder = none)
    (goesOn : answer.closes = false) (silent : answer.status? = none) (more : last ≠ []) :
    Run (Steps task) (.queued, t) (course (first ++ answer :: last)) (.done statuses, t') ↔
      Run (Steps task) (.queued, t) (course (first ++ last)) (.done statuses, t') := by
  have closed : WaitAnswer.Closed (first ++ answer :: last) ↔
      WaitAnswer.Closed (first ++ last) := by
    rw [WaitAnswer.closed_append (List.cons_ne_nil _ _), WaitAnswer.closed_append more,
      WaitAnswer.closed_cons_of_open goesOn]
  have reported : (first ++ answer :: last).filterMap WaitAnswer.status? =
      (first ++ last).filterMap WaitAnswer.status? := by
    simp [silent]
  rw [run_course_iff free, run_course_iff free, closed, reported]

end Pass

/-- A pass at a table of its own, and the kernel. -/
structure Sweep where
  pass : Pass := .queued
  table : Table
  children : Children

namespace Sweep

inductive Event
  | pass (event : Pass.Event)
  | kernel (event : Kernel.Event)

inductive Step (task : TaskId) (s : Sweep) : Event → Sweep → Prop
  | pass (moves : s.pass.step task s.table e = some (p', t'))
    (kernel : Passes s.children e child k') : Step task s (.pass e) ⟨p', t', k'⟩
  | kernel (changes : Changes s.children e k') :
    Step task s (.kernel e) { s with children := k' }

def Event.pass? : Event → Option Pass.Event
  | .pass event => some event
  | .kernel _ => none

/-- This pass has collected the child and lists the status with which it has ended. -/
def Lists (s : Sweep) (i : ChildId) (c : Child) (e : Ending) : Prop :=
  s.children i = some { c with life := .collected e } ∧ e.status c.pid ∈ s.pass.statuses

variable {task : TaskId} {s s' : Sweep} {event : Event} {events : List Event}
variable {i : ChildId} {c : Child} {e : Ending}

theorem Lists.step (h : s.Lists i c e) (step : Step task s event s') : s'.Lists i c e := by
  cases step with
  | kernel changes => exact ⟨changes.past h.1 rfl, h.2⟩
  | pass moves kernel =>
    refine ⟨kernel.past h.1 rfl, ?_⟩
    rw [(Pass.step_eq_some.1 moves).statuses_eq]
    exact List.mem_append_left _ h.2

/-- Nobody else collects a child that has ended. -/
theorem Step.lists_or_still (step : Step task s event s') (known : s.children i = some c)
    (ended : c.life = .ended e) : s'.Lists i c e ∨ s'.children i = some c := by
  cases step with
  | kernel changes => exact .inr (changes.still known ended)
  | pass moves kernel =>
    cases kernel.still_or_collected known ended with
    | inl still => exact .inr still
    | inr collected =>
      obtain ⟨rfl, known'⟩ := collected
      refine .inl ⟨known', ?_⟩
      rw [(Pass.step_eq_some.1 moves).statuses_eq]
      simp [Pass.Event.reported?, WaitAnswer.status?]

theorem lists_or_still (run : Run (Step task) s events s') (known : s.children i = some c)
    (ended : c.life = .ended e) : s'.Lists i c e ∨ s'.children i = some c := by
  refine run.keeps (P := fun s => s.Lists i c e ∨ s.children i = some c) ?_ (.inr known)
  intro s event s' h step
  cases h with
  | inl lists => exact .inl (lists.step step)
  | inr still => exact step.lists_or_still still ended

theorem lists_at_close {closing : WaitAnswer} {last : List Event} {done : Sweep}
    (run : Run (Step task) s (events ++ .pass (.wait closing) :: last) done)
    (closes : closing = .noneReady ∨ closing = .noChildren)
    (known : s.children i = some c) (ended : c.life = .ended e) : done.Lists i c e := by
  obtain ⟨u, u', before, close, after⟩ := run.split_at
  have either := lists_or_still (before.append (.single close)) known ended
  have lists : u'.Lists i c e := by
    refine either.resolve_right fun still => ?_
    have noneEnded : u'.children.NoneEnded := by
      cases close with
      | pass _ kernel => rcases closes with rfl | rfl <;> exact kernel.noneEnded rfl nofun
    exact noneEnded i c e still ended
  exact after.keeps (P := fun s => s.Lists i c e) (fun lists step => lists.step step) lists

theorem run_pass (run : Run (Step task) s events s') :
    Run (Pass.Steps task) (s.pass, s.table) (events.filterMap Event.pass?)
      (s'.pass, s'.table) := by
  apply run.project fun s => (s.pass, s.table)
  · intro s e e' t step own
    cases step with
    | pass moves _ =>
      cases own
      exact moves
    | kernel _ => cases own
  · intro s e t step other
    cases step with
    | pass _ _ => cases other
    | kernel _ => rfl

end Sweep

namespace Pass

/-- What a pass of this task makes of the answers that it gets, and what it leaves behind. -/
structure Collects (task : TaskId) (t : Table) : Prop where
  /-- A pass comes to its end with all answers of which just the last one closes. -/
  whole : ∀ answers, WaitAnswer.Closed answers → ∃ statuses t',
    Run (Steps task) (.queued, t) (course answers) (.done statuses, t')
  stops : ∀ es statuses t', Run (Steps task) (.queued, t) es (.done statuses, t') → ∃ answers,
    WaitAnswer.Closed answers ∧ es = course answers ∧
      statuses = answers.filterMap WaitAnswer.status? ∧ t.HandedOver statuses t' ∧ t'.holder = none
  /-- What is no termination can as well be left out. -/
  silent : ∀ first answer last statuses t', answer.closes = false → answer.status? = none →
    last ≠ [] →
    (Run (Steps task) (.queued, t) (course (first ++ answer :: last)) (.done statuses, t') ↔
      Run (Steps task) (.queued, t) (course (first ++ last)) (.done statuses, t'))
  /-- Beside the kernel the pass is the same. -/
  beside : ∀ children events done,
    Run (Sweep.Step task) { table := t, children } events done →
      Run (Steps task) (.queued, t) (events.filterMap Sweep.Event.pass?) (done.pass, done.table)
  /-- A child is listed that has ended before the answer that closes. -/
  complete : ∀ children first s between closing last done i c e,
    Run (Sweep.Step task) { table := t, children } first s →
    Run (Sweep.Step task) s (between ++ .pass (.wait closing) :: last) done →
    closing = .noneReady ∨ closing = .noChildren →
    s.children i = some c → c.life = .ended e → done.Lists i c e

theorem collects_all_reported {task : TaskId} {t : Table} (isMap : t.IsMap)
    (free : t.holder = none) : Collects task t where
  whole answers closed := ⟨_, _, (run_course_iff free).2 ⟨closed, rfl, rfl⟩⟩
  stops es statuses t' run := by
    obtain ⟨answers, closed, rfl, listed, rfl⟩ := (run_iff free).1 run
    refine ⟨answers, closed, rfl, listed, isMap.handedOver statuses, ?_⟩
    rw [Table.holder_collectAll, free]
  silent _ _ _ _ _ goesOn silent more := run_insert_iff free goesOn silent more
  beside _ _ _ run := Sweep.run_pass run
  complete _ _ _ _ _ _ _ _ _ _ _ run closes known ended :=
    Sweep.lists_at_close run closes known ended

/-- Commands 5, 6 and 7, and nobody waits for 6 any more. -/
def threeCommands : Table :=
  ((((({} : Table).register 5).1.register 6).1.register 7).1).drop ⟨6, 1⟩

theorem isMap_threeCommands : threeCommands.IsMap :=
  ((((Table.IsMap.start.register 5).register 6).register 7)).drop ⟨6, 1⟩

/-- Command 7 is stopped by a signal, an orphan comes in between, and 5 is reported twice. -/
def manyEnds : List WaitAnswer := [
  .report 6 0, .interrupted, .report 5 256, .report 7 0x137f, .report 9 9, .interrupted,
  .report 5 0, .noChildren]

/-- One child has ended before the pass, and another one ends while it goes on. -/
def burst : Children :=
  (Children.set (fun _ => none) 0 ⟨5, true, .ended .success⟩).set 1 ⟨6, true, .running⟩

def burstSeen : List Sweep.Event := [
  .pass .lock, .pass (.wait (.report 5 0)), .kernel (.exit 1 .success), .pass (.wait .interrupted),
  .pass (.wait (.report 6 0)), .pass (.wait .noChildren), .pass .unlock]

theorem run_burstSeen :
    ∃ done, Run (Sweep.Step 0) { table := threeCommands, children := burst } burstSeen done ∧
      done.pass = .done [⟨5, some 0, none⟩, ⟨6, some 0, none⟩] := by
  refine Run.exists_cons (.pass rfl .lock) ?_
  refine Run.exists_cons (.pass rfl (.wait
    (.ended (i := 0) (c := ⟨5, true, .ended .success⟩) (e := .success) rfl rfl))) ?_
  refine Run.exists_cons (.kernel (.exit rfl rfl)) ?_
  refine Run.exists_cons (.pass rfl (.wait .interrupted)) ?_
  refine Run.exists_cons (.pass rfl (.wait
    (.ended (i := 1) (c := ⟨6, true, .ended .success⟩) (e := .success) rfl rfl))) ?_
  refine Run.exists_cons (.pass rfl (.wait (.noChildren ?_))) ?_
  · intro i c e known ended
    simp only [burst, Children.set_apply] at known
    split at known <;> [skip; split at known] <;> cases known <;> cases ended
  refine Run.exists_cons (.pass rfl .unlock) ?_
  exact ⟨_, .nil, rfl⟩

theorem collects_all_reported_burst : threeCommands.IsMap ∧ threeCommands.holder = none ∧
    Collects 0 threeCommands ∧ WaitAnswer.Closed manyEnds ∧
    manyEnds.filterMap WaitAnswer.status? =
      [⟨6, some 0, none⟩, ⟨5, some 1, none⟩, ⟨9, none, some 9⟩, ⟨5, some 0, none⟩] ∧
    threeCommands.sendsTo 0 (manyEnds.filterMap WaitAnswer.status?) = [⟨5, some 1, none⟩] ∧
    ∃ done, Run (Sweep.Step 0) { table := threeCommands, children := burst } burstSeen done ∧
      done.pass = .done [⟨5, some 0, none⟩, ⟨6, some 0, none⟩] ∧
      done.Lists 0 ⟨5, true, .ended .success⟩ .success := by
  have spec : Collects 0 threeCommands := collects_all_reported isMap_threeCommands rfl
  refine ⟨isMap_threeCommands, rfl, spec, ?_, rfl, rfl, ?_⟩
  · repeat first | exact .close rfl | refine .goOn rfl ?_
  · obtain ⟨done, run, finished⟩ := run_burstSeen
    have lists := spec.complete burst [] _ (burstSeen.take 5) .noChildren [.pass .unlock] done
      0 ⟨5, true, .ended .success⟩ .success .nil run (.inr rfl) rfl rfl
    exact ⟨done, run, finished, lists⟩

end Pass

namespace Shared

theorem Step.isMap {s s' : Shared} {e : Event} (step : Step s e s') (h : s.table.IsMap) :
    s'.table.IsMap := by
  cases step with
  | begin | kernel | receive => exact h
  | drop => exact h.drop _
  | spawn _ moves _ =>
    cases Spawning.step_eq_some.1 moves with
    | lock | unlock => exact h.hold _
    | register => exact h.register _
    | _ => exact h
  | pass _ moves _ =>
    cases Pass.step_eq_some.1 moves with
    | lock | unlock => exact h.hold _
    | collect => exact h.collect _
    | _ => exact h

/-- Every pass finds such a table. -/
theorem isMap_of_run {s : Shared} {es : List Event} (run : Run Step {} es s) : s.table.IsMap :=
  run.keeps (P := fun s => s.table.IsMap) (fun h step => step.isMap h) .start

end Shared

end PidOne
