import PidOne.Forwarder
import PidOne.Proofs.Run

/-!
# Signal accounting

Over any chain of attaching and detaching, a forwarded signal that arrives is held until it is sent
to the group of that moment. What is sent has arrived since it was last sent.
-/

namespace PidOne

open Signal

theorem Receivers.of_next? {r : Receivers} {s : Signal} (h : r.next? = some s) :
    s ∈ forwarded ∧ r.held s = true :=
  ⟨List.mem_of_find?_eq_some h, List.find?_some h⟩

theorem Receivers.arrive_held {r : Receivers} {s x : Signal} :
    (r.arrive s).held x = true ↔ r.held x = true ∨ x = s ∧ s ∈ forwarded := by
  simp only [Receivers.arrive]
  split <;> simp_all

theorem Receivers.take_held {r : Receivers} {s x : Signal} :
    (r.take s).held x = true ↔ r.held x = true ∧ x ≠ s := by
  simp only [Receivers.take]
  split <;> simp_all

theorem Signal.child_not_mem_forwarded : child ∉ forwarded := by decide

theorem Signal.isForwardable_of_mem {s : Signal} (h : s ∈ forwarded) : s.isForwardable = true := by
  rw [isForwardable, bne_iff_ne]
  rintro rfl
  exact child_not_mem_forwarded h

/-- The steps of a relay. Only to send it takes a signal from the receivers. -/
inductive Relay.Moves (r : Relay) : Relay.Event → Relay → Prop
  | stop (active : r.finished = false) (awake : r.asleep = false)
    (requested : r.stopRequested = true) : Moves r .stop { r with finished := true }
  | send (active : r.finished = false) (awake : r.asleep = false)
    (goesOn : r.stopRequested = false) (next : r.receivers.next? = some s)
    (passed : result ≠ .skipped) :
    Moves r (.send s result) { r with
      receivers := r.receivers.take s
      watched := r.watched ++ forwarded.takeWhile (!r.receivers.held ·) }
  | sleep (active : r.finished = false) (awake : r.asleep = false)
    (goesOn : r.stopRequested = false) (nothing : r.receivers.next? = none) :
    Moves r .sleep { r with watched := forwarded, asleep := true }

theorem Relay.step_eq_some {r r' : Relay} {e : Relay.Event} :
    r.step e = some r' ↔ r.Moves e r' := by
  constructor
  · intro h
    unfold Relay.step at h
    split at h
    · cases h
    · rename_i busy
      obtain ⟨active, awake⟩ : r.finished = false ∧ r.asleep = false := by simpa using busy
      split at h
      · cases h
        exact .stop active awake ‹_›
      · rename_i s result held goesOn next
        split at h
        · rename_i passes
          cases h
          obtain ⟨rfl, passed⟩ : s = held ∧ (result != .skipped) = s.isForwardable := by
            simpa using passes
          rw [isForwardable_of_mem (Receivers.of_next? next).1, bne_iff_ne] at passed
          exact .send active awake goesOn next passed
        · cases h
      · cases h
        exact .sleep active awake ‹_› ‹_›
      · cases h
  · intro h
    cases h with
    | stop active awake requested => simp [Relay.step, active, awake, requested]
    | send active awake goesOn next passed =>
      simp [Relay.step, active, awake, goesOn, next, passed,
        isForwardable_of_mem (Receivers.of_next? next).1]
    | sleep active awake goesOn nothing => simp [Relay.step, active, awake, goesOn, nothing]

@[simp] theorem Relay.arrive_receivers {r : Relay} {s : Signal} :
    (r.arrive s).receivers = r.receivers.arrive s := by
  simp only [Relay.arrive]
  split <;> rfl

@[simp] theorem Relay.arrive_group {r : Relay} {s : Signal} : (r.arrive s).group = r.group := by
  simp only [Relay.arrive]
  split <;> rfl

theorem Receivers.arrive_of_not_mem {r : Receivers} {s : Signal} (h : s ∉ forwarded) :
    r.arrive s = r := by
  simp [Receivers.arrive, h]

/-- A relay sleeps only while it holds nothing, and then everything that may arrive wakes it. -/
def Relay.Calm (r : Relay) : Prop :=
  r.asleep = true → r.receivers.next? = none ∧ r.watched = forwarded

theorem Relay.Calm.arrive {r : Relay} (h : r.Calm) (s : Signal) : (r.arrive s).Calm := by
  simp only [Relay.arrive]
  split
  · exact nofun
  · rename_i unwatched
    intro asleep
    obtain ⟨nothing, watched⟩ := h asleep
    have new : s ∉ forwarded := by simpa [watched] using unwatched
    exact ⟨by rw [Receivers.arrive_of_not_mem new, nothing], watched⟩

theorem Relay.Moves.calm {r r' : Relay} {e : Relay.Event} (h : r.Moves e r') : r'.Calm := by
  cases h with
  | stop _ awake => exact fun asleep => absurd (awake.symm.trans asleep) nofun
  | send _ awake => exact fun asleep => absurd (awake.symm.trans asleep) nofun
  | sleep _ _ _ nothing => exact fun _ => ⟨nothing, rfl⟩

theorem Relay.Moves.stopRequested {r r' : Relay} {e : Relay.Event} (h : r.Moves e r') :
    r'.stopRequested = r.stopRequested := by
  cases h <;> rfl

@[simp] theorem Relay.arrive_stopRequested {r : Relay} {s : Signal} :
    (r.arrive s).stopRequested = r.stopRequested := by
  simp only [Relay.arrive]
  split <;> rfl

def Relay.Event.Sends (s : Signal) : Relay.Event → Prop
  | .send x _ => x = s
  | _ => False

theorem Relay.Moves.held_iff {r r' : Relay} {e : Relay.Event} {s : Signal} (h : r.Moves e r') :
    r'.receivers.held s = true ↔ r.receivers.held s = true ∧ ¬e.Sends s := by
  cases h with
  | send => simp only [Receivers.take_held, Event.Sends, ne_comm, ne_eq]
  | _ => simp [Event.Sends]

namespace Forwarder

inductive Moves : Forwarder → Event → Forwarder → Prop
  | register : Moves f .register (.detached {})
  | arrive : Moves f (.arrive s) (f.arrive s)
  | attach : Moves (.detached receivers) (.attach group) (.attached { group, receivers })
  | relay (h : r.Moves e r') : Moves (.attached r) (.relay e) (.attached r')
  | requestStop : Moves (.attached r) .requestStop (.attached r.requestStop)
  | detach (finished : r.finished = true) : Moves (.attached r) .detach (.detached r.receivers)
  | drop : Moves f .drop .unregistered

/-- The steps of a forwarder, as a system. -/
def Steps (f : Forwarder) (e : Event) (f' : Forwarder) : Prop := f.step e = some f'

variable {f f' : Forwarder} {e : Event} {s x : Signal} {es : List Event} {g : Pid} {r r' : Relay}

theorem steps_iff : Steps f e f' ↔ Moves f e f' := by
  constructor
  · intro h
    unfold Steps step at h
    split at h
    · cases h
      exact .register
    · cases h
      exact .arrive
    · cases h
      exact .attach
    · obtain ⟨_, step, rfl⟩ := Option.map_eq_some_iff.1 h
      exact .relay (Relay.step_eq_some.1 step)
    · cases h
      exact .requestStop
    · split at h
      · cases h
        exact .detach ‹_›
      · cases h
    · cases h
      exact .drop
    · cases h
  · intro h
    cases h with
    | relay h => simp [Steps, step, Relay.step_eq_some.2 h]
    | detach finished => simp [Steps, step, finished]
    | register | arrive | attach | requestStop | drop => simp [Steps, step]

theorem Steps.moves (h : Steps f e f') : Moves f e f' := steps_iff.1 h

def group? : Forwarder → Option Pid
  | .attached relay => some relay.group
  | _ => none

def Holds : Forwarder → Signal → Prop
  | .unregistered, _ => False
  | .detached receivers, s => receivers.held s = true
  | .attached relay, s => relay.receivers.held s = true

/-- After such a step the signal is not held. -/
def Event.Clears (s : Signal) : Event → Prop
  | .relay e => e.Sends s
  | .register | .drop => True
  | _ => False

theorem holds_arrive_iff :
    (f.arrive x).Holds s ↔ f.Holds s ∨ x = s ∧ s ∈ forwarded ∧ f ≠ .unregistered := by
  cases f <;> simp [arrive, Holds, Receivers.arrive_held] <;> grind

/-- What is held is what was held and not cleared, and what arrives. -/
theorem Moves.holds_iff (h : Moves f e f') :
    f'.Holds s ↔ f.Holds s ∧ ¬e.Clears s ∨ e = .arrive s ∧ s ∈ forwarded ∧ f ≠ .unregistered := by
  cases h with
  | register => simp [Holds, Event.Clears]
  | drop => simp [Holds, Event.Clears]
  | arrive => simp [holds_arrive_iff, Event.Clears]
  | relay h => simp [Holds, Event.Clears, h.held_iff]
  | attach | requestStop | detach => simp [Holds, Event.Clears, Relay.requestStop]

theorem Moves.registered (h : Moves f e f') (before : f ≠ .unregistered) (stays : e ≠ .drop) :
    f' ≠ .unregistered := by
  cases h with
  | @arrive f s => cases f <;> simp_all [Forwarder.arrive]
  | drop => exact absurd rfl stays
  | _ => exact nofun

theorem registered_along (run : Run Steps f es f') (before : f ≠ .unregistered)
    (stays : .drop ∉ es) : f' ≠ .unregistered :=
  run.keeps_along (P := (· ≠ .unregistered)) (fun stays before step =>
    step.moves.registered before stays) (fun e he => by rintro rfl; exact stays he) before

theorem Holds.along (run : Run Steps f es f') (holds : f.Holds s)
    (spared : ∀ e ∈ es, ¬e.Clears s) : f'.Holds s :=
  run.keeps_along (P := (Holds · s)) (fun spared holds step =>
    step.moves.holds_iff.2 (.inl ⟨holds, spared⟩)) spared holds

/-- What has come to be held has arrived, and has not been cleared since. -/
theorem Holds.since (run : Run Steps f es f') (before : ¬f.Holds s) (after : f'.Holds s) :
    s ∈ forwarded ∧ ∃ first last, es = first ++ .arrive s :: last ∧ ∀ e ∈ last, ¬e.Clears s := by
  obtain ⟨first, e, last, t, t', rfl, _, ht, step, ht', rest⟩ :=
    run.since (P := (Holds · s)) before after
  rcases step.moves.holds_iff.1 ht' with ⟨held, _⟩ | ⟨rfl, hs, _⟩
  · exact absurd held ht
  · refine ⟨hs, first, last, rfl, fun e he clears => ?_⟩
    obtain ⟨u, u', _, step, after⟩ := rest.step_of_mem he
    rcases step.moves.holds_iff.1 after with ⟨_, spared⟩ | ⟨rfl, _⟩
    · exact spared clears
    · exact clears

/-- While nothing is cleared, what is held at the end was held or has arrived. -/
theorem Holds.iff_arrived (run : Run Steps f es f') (registered : f ≠ .unregistered)
    (spared : ∀ e ∈ es, ¬e.Clears s) (stays : .drop ∉ es) :
    f'.Holds s ↔ f.Holds s ∨ s ∈ forwarded ∧ .arrive s ∈ es := by
  induction run with
  | nil => simp
  | @cons f e t es f' step rest ih =>
    rw [List.forall_mem_cons] at spared
    rw [List.mem_cons, not_or] at stays
    rw [ih (step.moves.registered registered (Ne.symm stays.1)) spared.2 stays.2,
      step.moves.holds_iff, List.mem_cons]
    grind

theorem Moves.held_of_send {result : Forwarded} (h : Moves f (.relay (.send s result)) f') :
    f.Holds s := by
  cases h with
  | relay h =>
    cases h with
    | send _ _ _ next => exact (Receivers.of_next? next).2

/-- What ends or begins the time of one group. -/
def Event.Rebinds : Event → Prop
  | .register | .attach _ | .detach | .drop => True
  | _ => False

theorem Moves.group?_eq (h : Moves f e f') (stays : ¬e.Rebinds) : f'.group? = f.group? := by
  cases h with
  | @arrive f s => cases f <;> simp [group?, Forwarder.arrive]
  | relay h => cases h <;> rfl
  | requestStop => rfl
  | _ => exact absurd trivial stays

theorem Moves.rebinds (h : Moves f e f') (rebinds : e.Rebinds) (after : f'.group? = some g) :
    e = .attach g ∧ f.group? = none := by
  cases h with
  | attach =>
    cases after
    exact ⟨rfl, rfl⟩
  | register | detach | drop => cases after
  | _ => cases rebinds

theorem attached_since (run : Run Steps f es f') (before : f.group? = none)
    (after : f'.group? = some g) :
    ∃ first last, es = first ++ .attach g :: last ∧ ∀ e ∈ last, ¬e.Rebinds := by
  obtain ⟨first, e, last, t, t', rfl, _, ht, step, ht', rest⟩ :=
    run.since (P := (group? · = some g)) (by simp [before]) after
  by_cases rebinds : e.Rebinds
  · obtain ⟨rfl, _⟩ := step.moves.rebinds rebinds ht'
    refine ⟨first, last, rfl, fun e he rebinds => ?_⟩
    obtain ⟨u, u', bound, step, bound'⟩ := rest.step_of_mem he
    obtain ⟨_, free⟩ := step.moves.rebinds rebinds bound'
    cases bound.symm.trans free
  · exact absurd ((step.moves.group?_eq rebinds).symm.trans ht') ht

/-- What a run with these events has done to signals. -/
structure Accounting (es : List Event) (f : Forwarder) : Prop where
  /-- What arrives is held or sent, until the receivers are replaced or dropped. -/
  accounted : ∀ before s after, es = before ++ .arrive s :: after → s ∈ forwarded →
    (∃ a b, before = a ++ .register :: b ∧ .drop ∉ b) → .register ∉ after → .drop ∉ after →
    f.Holds s ∨ ∃ result, .relay (.send s result) ∈ after
  /-- What is sent is passed to the group that is attached at this moment, and to no other, and has
  arrived before, after it was held for the last time. -/
  sent : ∀ before s result after, es = before ++ .relay (.send s result) :: after →
    result ≠ .skipped ∧ s ∈ forwarded ∧ s ≠ child ∧
    (∃ a b, before = a ++ .arrive s :: b ∧ ∀ e ∈ b, ¬e.Clears s) ∧
    ∃ r a b, Run Steps .unregistered before (.attached r) ∧
      before = a ++ .attach r.group :: b ∧ ∀ e ∈ b, ¬e.Rebinds
  /-- Between two sends of a signal it arrives. -/
  between : ∀ before s result mid result' after,
    es = before ++ .relay (.send s result) :: (mid ++ .relay (.send s result') :: after) →
    .arrive s ∈ mid
  /-- A relay that finds the request to stop leaves the receivers as they are. -/
  found : ∀ before e after, es = before ++ .relay e :: after → ∃ r r',
    Run Steps .unregistered before (.attached r) ∧
    Run Steps .unregistered (before ++ [.relay e]) (.attached r') ∧
    (r.stopRequested = true → e = .stop ∧ r'.receivers = r.receivers)
  /-- From the request to stop on nothing is sent, so that all that is held then, and all that
  arrives before the receivers are handed back, is held by them. -/
  stopped : ∀ before mid after, es = before ++ .requestStop :: (mid ++ .detach :: after) →
    (∀ e ∈ mid, ¬e.Rebinds) → (∀ s result, .relay (.send s result) ∉ mid) ∧
    ∃ r receivers, Run Steps .unregistered before (.attached r) ∧
      Run Steps .unregistered (before ++ .requestStop :: (mid ++ [.detach])) (.detached receivers) ∧
      ∀ s, receivers.held s = true ↔ r.receivers.held s = true ∨ s ∈ forwarded ∧ .arrive s ∈ mid

def Stopping (f : Forwarder) : Prop := ∃ r, f = .attached r ∧ r.stopRequested = true

/-- The request to stop wins. -/
theorem Moves.stopping (h : Moves f e f') (stopping : f.Stopping) (stays : ¬e.Rebinds) :
    f'.Stopping ∧ ∀ s, ¬e.Clears s := by
  obtain ⟨r, rfl, requested⟩ := stopping
  cases h with
  | @arrive _ s =>
    exact ⟨⟨_, rfl, Relay.arrive_stopRequested.trans requested⟩, fun _ => id⟩
  | relay h =>
    cases h with
    | stop => exact ⟨⟨_, rfl, requested⟩, fun _ => id⟩
    | send _ _ goesOn | sleep _ _ goesOn => simp [requested] at goesOn
  | requestStop => exact ⟨⟨_, rfl, rfl⟩, fun _ => id⟩
  | _ => exact absurd trivial stays

theorem stopping_along (run : Run Steps f es f') (stopping : f.Stopping)
    (stays : ∀ e ∈ es, ¬e.Rebinds) : f'.Stopping ∧ ∀ e ∈ es, ∀ s, ¬e.Clears s := by
  induction run with
  | nil => exact ⟨stopping, nofun⟩
  | cons step _ ih =>
    rw [List.forall_mem_cons] at stays
    obtain ⟨stopping, spared⟩ := step.moves.stopping stopping stays.1
    obtain ⟨stopping, spared'⟩ := ih stopping stays.2
    exact ⟨stopping, List.forall_mem_cons.2 ⟨spared, spared'⟩⟩

theorem held_or_sent (run : Run Steps f es f') (holds : f.Holds s) (kept : .register ∉ es)
    (kept' : .drop ∉ es) : f'.Holds s ∨ ∃ result, .relay (.send s result) ∈ es := by
  by_cases sent : ∃ result, .relay (.send s result) ∈ es
  · exact .inr sent
  · refine .inl (holds.along run fun e he clears => ?_)
    match e, clears with
    | .relay (.send _ result), rfl => exact sent ⟨result, he⟩
    | .register, _ => exact kept he
    | .drop, _ => exact kept' he

theorem Accounting.of_run (run : Run Steps .unregistered es f) : Accounting es f where
  accounted := by
    rintro before s after rfl hs ⟨a, b, rfl, stays⟩ kept kept'
    obtain ⟨t, t', first, step, rest⟩ := run.split_at
    obtain ⟨u, u', _, registers, toArrival⟩ := first.split_at
    have registered : t ≠ .unregistered := by
      cases registers.moves with
      | register => exact registered_along toArrival nofun stays
    have holds : t'.Holds s := step.moves.holds_iff.2 (.inr ⟨rfl, hs, registered⟩)
    exact held_or_sent rest holds kept kept'
  sent := by
    rintro before s result after rfl
    obtain ⟨t, t', first, step, rest⟩ := run.split_at
    cases step.moves with
    | @relay r _ _ h =>
      cases h with
      | send _ _ _ next passed =>
        obtain ⟨hs, held⟩ := Receivers.of_next? next
        obtain ⟨_, arrival⟩ := Holds.since first id held
        obtain ⟨a, b, attached⟩ := attached_since first rfl (g := r.group) rfl
        refine ⟨passed, hs, ?_, arrival, r, a, b, first, attached⟩
        rintro rfl
        exact child_not_mem_forwarded hs
  between := by
    rintro before s result mid result' after rfl
    obtain ⟨t, t', _, step, rest⟩ := run.split_at
    obtain ⟨u, u', rest, step', _⟩ := rest.split_at
    have cleared : ¬t'.Holds s := by
      rw [step.moves.holds_iff]
      simp [Event.Clears, Relay.Event.Sends]
    obtain ⟨_, a, b, rfl, _⟩ := Holds.since rest cleared step'.moves.held_of_send
    simp
  found := by
    rintro before e after rfl
    obtain ⟨t, t', first, step, _⟩ := run.split_at
    cases step.moves with
    | @relay r _ r' h =>
      refine ⟨r, r', first, first.append (.single step), fun requested => ?_⟩
      cases h with
      | stop => exact ⟨rfl, rfl⟩
      | send _ _ goesOn | sleep _ _ goesOn => simp [requested] at goesOn
  stopped := by
    rintro before mid after rfl stays
    obtain ⟨t, t', first, step, rest⟩ := run.split_at
    obtain ⟨u, u', second, step', _⟩ := rest.split_at
    cases step.moves with
    | @requestStop r =>
      obtain ⟨_, spared⟩ := stopping_along second ⟨_, rfl, rfl⟩ stays
      refine ⟨fun s result sends => spared _ sends s rfl, ?_⟩
      cases step'.moves with
      | @detach r' =>
        refine ⟨r, r'.receivers, first, ?_, fun s => ?_⟩
        · exact first.append (.cons step (second.append (.single step')))
        · exact Holds.iff_arrived second nofun (fun e he => spared e he s)
            fun drops => stays _ drops trivial

end Forwarder

end PidOne
