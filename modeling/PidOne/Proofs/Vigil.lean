import PidOne.Proofs.Reaper
import PidOne.Proofs.Sharing

/-!
# A reaper that oversleeps no child

A reaper at its table, whatever else happens at this table and at others, and the signals that
tell of children's ends. The kernel owes a signal for each child that has become collectable, and
posts it at some time. Signals in flight are not counted, and what arrives sets a flag.
-/

namespace PidOne

open Kernel

def Pass.willAsk : Pass → Bool
  | .queued | .collecting _ => true
  | .leaving _ | .done _ => false

namespace Reaper

def isIdle (r : Reaper) : Bool :=
  match r.activity with
  | .idle _ => true
  | _ => false

/-- Whether the kernel is asked for children before the task idles again. -/
def willAsk (r : Reaper) : Bool :=
  match r.activity with
  | .passing pass => pass.willAsk
  | _ => false

inductive Asks (k : Children) : Reaper.Event → Children → Prop
  | pass (h : Passes k event child k') : Asks k (.pass event) k'
  | rest : Asks k (.rest now) k
  | wake : Asks k (.wake reason) k

variable {k k' : Children} {e : Event} {i : ChildId}
variable {task : TaskId} {t t' : Table} {r r' : Reaper}

theorem Asks.ended (h : Asks k e k') (ended : k.Ended i) : k'.Ended i ∨ k'.Over i := by
  cases h with
  | pass passes => exact passes.ended ended
  | rest | wake => exact .inl ended

theorem Asks.over (h : Asks k e k') (gone : k.Over i) : k'.Over i := by
  cases h with
  | pass passes => exact passes.over gone
  | rest | wake => exact gone

theorem Asks.of_ended (h : Asks k e k') (ended : k'.Ended i) : k.Ended i := by
  cases h with
  | pass passes => exact passes.of_ended ended
  | rest | wake => exact ended

theorem Asks.noneEnded {answer : WaitAnswer} (h : Asks k (.pass (.wait answer)) k')
    (closes : answer.closes = true) (sound : ∀ number, answer ≠ .failed number) :
    k'.NoneEnded := by
  cases h with
  | pass passes => exact passes.noneEnded closes sound

/-- The task does not turn from asking while there is a child that has ended. -/
theorem Moves.willAsk (h : Moves task t r e r' t') (kernel : Asks k e k')
    (sound : ∀ number, e ≠ .pass (.wait (.failed number))) (ended : k'.Ended i)
    (asks : r.willAsk = true) : r'.willAsk = true := by
  cases h with
  | rest busy | stop busy | timer busy | childEnded busy =>
    simp [Reaper.willAsk, busy, Pass.willAsk] at asks
  | pass busy moves =>
    cases moves with
    | lock | collect | skip => rfl
    | close closes =>
      have none := kernel.noneEnded closes fun number h => sound number (by rw [h])
      exact absurd ended (none.not_ended i)
    | unlock => simp [Reaper.willAsk, busy, Pass.willAsk] at asks

theorem arrive_child (r : Reaper) : r.arrive Signal.child = { r with childEnded := true } := by
  simp [arrive]

theorem willAsk_arrive (r : Reaper) (signal : Signal) :
    (r.arrive signal).willAsk = r.willAsk := by
  simp only [willAsk, arrive_activity]

theorem hasEnded_arrive (r : Reaper) (signal : Signal) :
    (r.arrive signal).hasEnded = r.hasEnded := by
  simp only [hasEnded, arrive_activity]

end Reaper

namespace Shared

def Event.ends : Event → Option ChildId
  | .kernel event => event.ends
  | _ => none

variable {s s' : Shared} {e : Event} {i : ChildId}

theorem Step.ended (h : Step s e s') (ended : s.children.Ended i) :
    s'.children.Ended i ∨ s'.children.Over i := by
  cases h with
  | spawn _ _ kernel => exact kernel.ended ended
  | pass _ _ kernel => exact kernel.ended ended
  | kernel changes => exact .inl (changes.ended ended)
  | begin | receive | drop => exact .inl ended

theorem Step.over (h : Step s e s') (gone : s.children.Over i) : s'.children.Over i := by
  cases h with
  | spawn _ _ kernel => exact kernel.over gone
  | pass _ _ kernel => exact kernel.over gone
  | kernel changes => exact changes.over gone
  | begin | receive | drop => exact gone

theorem Step.of_ended (h : Step s e s') (ended : s'.children.Ended i) :
    s.children.Ended i ∨ e.ends = some i := by
  cases h with
  | spawn _ _ kernel => exact .inl (kernel.of_ended ended)
  | pass _ _ kernel => exact .inl (kernel.of_ended ended)
  | kernel changes => exact changes.of_ended ended
  | begin | receive | drop => exact .inl ended

end Shared

namespace Vigil

inductive Event
  | create (interval : Nat)
  | requestStop
  | reaper (event : Reaper.Event)
  | others (event : Shared.Event)
  | startElsewhere (event : Spawning.Event)
  | passElsewhere (event : Pass.Event)
  | post (child : ChildId)
  | spurious
  | deliver

end Vigil

structure Vigil where
  shared : Shared := {}
  reaper : Option Reaper := none
  owed : List ChildId := []
  inFlight : Bool := false

namespace Vigil

/-- What arrives while there is no reaper is lost. -/
inductive Step (self : TaskId) (s : Vigil) : Event → Vigil → Prop
  | create (room : ∀ r, s.reaper = some r → r.hasEnded = true) :
    Step self s (.create interval) { s with reaper := some { interval } }
  | requestStop : Step self s .requestStop { s with reaper := s.reaper.map Reaper.requestStop }
  | reaper (present : s.reaper = some r)
    (moves : r.step self s.shared.table e = some (r', t'))
    (kernel : Reaper.Asks s.shared.children e k') :
    Step self s (.reaper e)
      { s with shared := { s.shared with table := t', children := k' }, reaper := some r' }
  | others (other : ∀ work, e ≠ .begin self work) (step : Shared.Step s.shared e shared') :
    Step self s (.others e) { s with shared := shared', owed := e.ends.toList ++ s.owed }
  | startElsewhere (kernel : Starts s.shared.children child event child' k') :
    Step self s (.startElsewhere event) { s with shared := { s.shared with children := k' } }
  | passElsewhere (kernel : Passes s.shared.children event child k') :
    Step self s (.passElsewhere event) { s with shared := { s.shared with children := k' } }
  | post (owed : i ∈ s.owed) :
    Step self s (.post i) { s with owed := s.owed.erase i, inFlight := true }
  | spurious : Step self s .spurious { s with inFlight := true }
  | deliver (sent : s.inFlight = true) :
    Step self s .deliver
      { s with inFlight := false, reaper := s.reaper.map (Reaper.arrive Signal.child) }

def Fails (e : Event) : Prop := ∃ number, e = .reaper (.pass (.wait (.failed number)))

variable {self : TaskId} {s s' : Vigil} {e : Event} {es : List Event} {r r' : Reaper}
variable {i : ChildId}

theorem Step.ended (h : Step self s e s') (ended : s.shared.children.Ended i) :
    s'.shared.children.Ended i ∨ s'.shared.children.Over i := by
  cases h with
  | reaper _ _ kernel => exact kernel.ended ended
  | others _ step => exact step.ended ended
  | startElsewhere kernel => exact kernel.ended ended
  | passElsewhere kernel => exact kernel.ended ended
  | create | requestStop | post | spurious | deliver => exact .inl ended

theorem Step.over (h : Step self s e s') (gone : s.shared.children.Over i) :
    s'.shared.children.Over i := by
  cases h with
  | reaper _ _ kernel => exact kernel.over gone
  | others _ step => exact step.over gone
  | startElsewhere kernel => exact kernel.over gone
  | passElsewhere kernel => exact kernel.over gone
  | create | requestStop | post | spurious | deliver => exact gone

/-- The signal for this child has still to be posted, is in flight or has set the flag. -/
def Tells (s : Vigil) (r : Reaper) (i : ChildId) : Prop :=
  i ∈ s.owed ∨ s.inFlight = true ∨ r.childEnded = true

/-- Wherever the task is, the end of a child is on its way to it or will show when it asks. -/
def Covers (s : Vigil) (r : Reaper) (i : ChildId) : Prop := s.Tells r i ∨ r.willAsk = true

def Inv (s : Vigil) : Prop :=
  ∀ r i, s.reaper = some r → s.shared.children.Ended i → s.Covers r i

theorem Inv.start : Inv {} := nofun

/-- A step of the reaper's own leaves a child uncovered only if it has just been told by the
kernel that none has ended. -/
theorem Covers.reaper {t t' : Table} {event : Reaper.Event} {k' : Children}
    (h : s.Covers r i) (moves : Reaper.Moves self t r event r' t')
    (kernel : Reaper.Asks s.shared.children event k') (sound : ¬Fails (.reaper event))
    (ended : k'.Ended i) (shared : Shared) : Covers { s with shared, reaper := some r' } r' i := by
  cases h with
  | inl tells =>
    cases moves with
    | timer | childEnded => exact .inr rfl
    | rest | stop | pass => exact .inl tells
  | inr asks =>
    have sound' := fun number h => sound ⟨number, congrArg Event.reaper h⟩
    exact .inr (moves.willAsk kernel sound' ended asks)

theorem Inv.step (h : s.Inv) (sound : ¬Fails e) (step : Step self s e s') : s'.Inv := by
  intro r i present ended
  cases step with
  | create =>
    cases present
    exact .inr rfl
  | requestStop =>
    obtain ⟨r, before, rfl⟩ := Option.map_eq_some_iff.1 present
    exact h r i before ended
  | reaper before moves kernel =>
    cases present
    have covers := h _ i before (kernel.of_ended ended)
    exact covers.reaper (.of_step moves) kernel sound ended _
  | others _ step =>
    rcases step.of_ended ended with ended | new
    · cases h r i present ended with
      | inl tells => exact .inl (tells.imp_left (List.mem_append_right _))
      | inr asks => exact .inr asks
    · exact .inl (.inl (List.mem_append_left _ (by simp [new])))
  | startElsewhere kernel => exact h r i present (kernel.of_ended ended)
  | passElsewhere kernel => exact h r i present (kernel.of_ended ended)
  | post | spurious => exact .inl (.inr (.inl rfl))
  | deliver =>
    obtain ⟨r, before, rfl⟩ := Option.map_eq_some_iff.1 present
    exact .inl (.inr (.inr (by rw [Reaper.arrive_child])))

theorem inv_of_run (run : Run (Step self) {} es s) (sound : ∀ e ∈ es, ¬Fails e) : s.Inv :=
  run.keeps_along (fun sound h step => h.step sound step) sound .start

/-- The child is over, or the task asks for it before it idles again. -/
def Meets (s : Vigil) (i : ChildId) : Prop :=
  s.shared.children.Over i ∨ s.shared.children.Ended i ∧
    ∀ r, s.reaper = some r → r.willAsk = true ∨ r.hasEnded = true

theorem Meets.step (h : s.Meets i) (sound : ¬Fails e) (step : Step self s e s') :
    s'.Meets i := by
  obtain gone | ⟨ended, asks⟩ := h
  · exact .inl (step.over gone)
  rcases (step.ended ended).symm with gone | ended'
  · exact .inl gone
  refine .inr ⟨ended', ?_⟩
  intro r present
  cases step with
  | create =>
    cases present
    exact .inl rfl
  | requestStop =>
    obtain ⟨r, before, rfl⟩ := Option.map_eq_some_iff.1 present
    exact asks r before
  | reaper before moves kernel =>
    cases present
    have moves := Reaper.Moves.of_step moves
    cases asks _ before with
    | inl asks =>
      have sound' := fun number h => sound ⟨number, congrArg Event.reaper h⟩
      exact .inl (moves.willAsk kernel sound' ended' asks)
    | inr hasEnded => exact absurd hasEnded (Bool.eq_false_iff.1 moves.goesOn)
  | deliver =>
    obtain ⟨r, before, rfl⟩ := Option.map_eq_some_iff.1 present
    rw [Reaper.willAsk_arrive, Reaper.hasEnded_arrive]
    exact asks r before
  | others | startElsewhere | passElsewhere | post | spurious => exact asks r present

theorem Meets.over_of_rest {now : Nat} (h : s.Meets i)
    (step : Step self s (.reaper (.rest now)) s') : s'.shared.children.Over i := by
  obtain gone | ⟨_, asks⟩ := h
  · exact step.over gone
  cases step with
  | reaper present moves =>
    have asks := asks _ present
    cases Reaper.Moves.of_step moves with
    | rest busy => simp [Reaper.willAsk, Reaper.hasEnded, busy, Pass.willAsk] at asks

/-- From the signal that the kernel owes to the next pass. -/
def summons (i : ChildId) : List Event := [.post i, .deliver, .reaper (.wake .childEnded)]

/-- The task, roused for the reason that a child has ended. -/
def IsRoused (s : Vigil) (r : Reaper) : Prop :=
  s.reaper = some { r with activity := .passing .queued, childEnded := false }

theorem roused_of_childEnded (present : s.reaper = some r) (idle : r.isIdle = true)
    (told : r.childEnded = true) :
    ∃ s', Run (Step self) s [.reaper (.wake .childEnded)] s' ∧ s'.IsRoused r := by
  have moves : r.step self s.shared.table (.wake .childEnded) = some
      ({ r with activity := .passing .queued, childEnded := false }, s.shared.table) := by
    unfold Reaper.isIdle at idle
    split at idle
    · simp [Reaper.step, *]
    · cases idle
  exact ⟨_, .single (.reaper present moves .wake), rfl⟩

theorem roused_of_inFlight (present : s.reaper = some r) (idle : r.isIdle = true)
    (sent : s.inFlight = true) :
    ∃ s', Run (Step self) s [.deliver, .reaper (.wake .childEnded)] s' ∧ s'.IsRoused r := by
  refine Run.exists_cons (.deliver sent) ?_
  apply roused_of_childEnded (r := { r with childEnded := true })
  · simp [present, Reaper.arrive_child]
  · exact idle
  · rfl

theorem roused_of_owed (present : s.reaper = some r) (idle : r.isIdle = true)
    (owed : i ∈ s.owed) : ∃ s', Run (Step self) s (summons i) s' ∧ s'.IsRoused r :=
  Run.exists_cons (.post owed) (roused_of_inFlight present idle rfl)

/-- A child that has ended, at the task's place in its loop. -/
structure Heeds (task : TaskId) (s : Vigil) (r : Reaper) (i : ChildId) : Prop where
  covers : s.Covers r i
  tells : r.isIdle = true → s.Tells r i
  /-- No timer need run out for the next pass. -/
  due : r.isIdle = true → ∃ fs s', fs <:+ summons i ∧ Run (Step task) s fs s' ∧ s'.IsRoused r
  /-- The pass that asks collects, unless somebody else has collected before. -/
  collects : r.willAsk = true → ∀ fs now s', Run (Step task) s (fs ++ [.reaper (.rest now)]) s' →
    (∀ e ∈ fs, ¬Fails e) → s'.shared.children.Over i

theorem Covers.tells (h : s.Covers r i) (idle : r.isIdle = true) : s.Tells r i := by
  cases h with
  | inl tells => exact tells
  | inr asks =>
    unfold Reaper.isIdle at idle
    split at idle
    · simp [Reaper.willAsk, *] at asks
    · cases idle

theorem Tells.due (h : s.Tells r i) (present : s.reaper = some r) (idle : r.isIdle = true) :
    ∃ fs s', fs <:+ summons i ∧ Run (Step self) s fs s' ∧ s'.IsRoused r := by
  rcases h with owed | sent | told
  · obtain ⟨s', run, roused⟩ := roused_of_owed present idle owed
    exact ⟨_, s', List.suffix_rfl, run, roused⟩
  · obtain ⟨s', run, roused⟩ := roused_of_inFlight present idle sent
    exact ⟨_, s', ⟨[.post i], rfl⟩, run, roused⟩
  · obtain ⟨s', run, roused⟩ := roused_of_childEnded present idle told
    exact ⟨_, s', ⟨[.post i, .deliver], rfl⟩, run, roused⟩

theorem over_at_rest {now : Nat} (present : s.reaper = some r) (asks : r.willAsk = true)
    (ended : s.shared.children.Ended i)
    (run : Run (Step self) s (es ++ [.reaper (.rest now)]) s') (sound : ∀ e ∈ es, ¬Fails e) :
    s'.shared.children.Over i := by
  obtain ⟨t, t', first, rest, last⟩ := run.split_at
  have start : s.Meets i := by
    refine .inr ⟨ended, ?_⟩
    intro r' present'
    rw [present] at present'
    cases present'
    exact .inl asks
  have meets : t.Meets i :=
    first.keeps_along (P := fun s => s.Meets i) (fun sound h step => h.step sound step) sound start
  obtain rfl := Run.nil_iff.1 last
  exact meets.over_of_rest rest

theorem never_oversleeps (run : Run (Step self) {} es s) (sound : ∀ e ∈ es, ¬Fails e)
    (present : s.reaper = some r) (ended : s.shared.children.Ended i) : Heeds self s r i := by
  have covers : s.Covers r i := inv_of_run run sound r i present ended
  constructor
  · exact covers
  · exact covers.tells
  · intro idle
    exact (covers.tells idle).due present idle
  · intro asks fs now s' run sound
    exact over_at_rest present asks ended run sound

/-- One child ends before there is a reaper, and its signal is lost. Another one is adopted when it
has ended and when the kernel has just told the reaper that none has. -/
def lateEnd : List Event := [
  .startElsewhere (.fork (.ok 5)), .others (.kernel (.exit 0 .success)), .post 0, .deliver,
  .create 1000,
  .reaper (.pass .lock), .reaper (.pass (.wait (.report 5 0))), .reaper (.pass (.wait .noChildren)),
  .others (.kernel (.adopt 1 6 (some .success))), .reaper (.pass .unlock), .reaper (.rest 0)]

theorem run_lateEnd : ∃ s, Run (Step 0) {} lateEnd s ∧
    s.reaper = some ⟨1000, .idle 1000, false, false⟩ ∧ s.shared.children.Ended 1 := by
  refine Run.exists_cons (.startElsewhere (.fork (i := 0) rfl nofun)) ?_
  refine Run.exists_cons (.others nofun (.kernel (.exit rfl rfl))) ?_
  refine Run.exists_cons (.post (.head _)) ?_
  refine Run.exists_cons (.deliver rfl) ?_
  refine Run.exists_cons (.create nofun) ?_
  refine Run.exists_cons (.reaper rfl rfl (.pass .lock)) ?_
  refine Run.exists_cons (.reaper rfl rfl (.pass (.wait
    (.ended (i := 0) (c := ⟨5, true, .ended .success⟩) (e := .success) rfl rfl)))) ?_
  refine Run.exists_cons (.reaper rfl rfl (.pass (.wait (.noChildren ?_)))) ?_
  · intro i c e known ended
    simp only [Children.set_set, Children.set_apply] at known
    split at known <;> cases known
    cases ended
  refine Run.exists_cons (.others nofun (.kernel (.adopt rfl ?_))) ?_
  · intro i c known pid
    simp only [Children.set_set, Children.set_apply] at known
    split at known <;> cases known
    cases pid
  refine Run.exists_cons (.reaper rfl rfl (.pass .unlock)) ?_
  refine Run.exists_cons (.reaper rfl rfl .rest) ?_
  exact ⟨_, .nil, rfl, _, _, rfl, rfl⟩

theorem never_oversleeps_late_end : ∃ s r, Run (Step 0) {} lateEnd s ∧ (∀ e ∈ lateEnd, ¬Fails e) ∧
    s.reaper = some r ∧ s.shared.children.Ended 1 ∧ r.isIdle = true ∧ Heeds 0 s r 1 := by
  obtain ⟨s, run, present, ended⟩ := run_lateEnd
  have sound : ∀ e ∈ lateEnd, ¬Fails e := by simp [lateEnd, Fails]
  exact ⟨s, _, run, sound, present, ended, rfl, never_oversleeps run sound present ended⟩

end Vigil

end PidOne
