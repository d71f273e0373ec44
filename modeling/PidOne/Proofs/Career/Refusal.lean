import PidOne.Proofs.Career

/-!
# Calls that fail to start their command

Such a call ends with the failure, and apart from the time that it has held the lock it has left no
trace: without it everything would be the same from then on.
-/

namespace PidOne

namespace Runner

/-- For which cause the start of a command fails with this. -/
def Event.refusal? : Event → Option Cause
  | .spawn (.fork (.error cause)) => some cause
  | .spawn (.exec (some number)) => some (.errno number)
  | _ => none

inductive Undecided (command : Command) : Runner → Prop
  | queued : Undecided command (.spawning command .queued receivers)
  | locked : Undecided command (.spawning command .locked receivers)
  | forked : Undecided command (.spawning command (.forked pid) receivers)

inductive Refused (command : Command) (cause : Cause) : Runner → Prop
  | failed : Refused command cause (.spawning command (.failed pid cause) receivers)
  | leaving : Refused command cause (.spawning command (.leaving (.error cause)) receivers)
  | done : Refused command cause (.spawning command (.done (.error cause)) receivers)
  | finished : Refused command cause
    (.finished (.error (.spawnFailed command.program cause)) receivers)

inductive Started : Runner → Prop
  | executing : Started (.spawning command (.executing pid) receivers)
  | leaving : Started (.spawning command (.leaving (.ok child)) receivers)
  | done : Started (.spawning command (.done (.ok child)) receivers)
  | waiting : Started (.waiting child relay)
  | detaching : Started (.detaching answer relay)
  | finished : Started (.finished answer receivers)

variable {task : TaskId} {t t' : Table} {r r' : Runner} {e : Event} {s : Signal}
variable {command : Command} {cause : Cause}

theorem Undecided.arrive (h : Undecided command r) (s : Signal) :
    Undecided command (r.arrive s) := by
  cases h <;> constructor

theorem Refused.arrive (h : Refused command cause r) (s : Signal) :
    Refused command cause (r.arrive s) := by
  cases h <;> constructor

theorem Started.arrive (h : Started r) (s : Signal) : Started (r.arrive s) := by
  cases h <;> constructor

theorem Undecided.moves (h : Undecided command r) (moves : Moves task t r e r' t') :
    match e.refusal? with
    | some cause => Refused command cause r'
    | none => Undecided command r' ∨ Started r' := by
  cases h with
  | queued =>
    cases moves with
    | spawn moves =>
      cases moves with
      | lock => exact .inl .locked
  | locked =>
    cases moves with
    | spawn moves =>
      cases moves with
      | fork => exact .inl .forked
      | refuse => exact .leaving
  | forked =>
    cases moves with
    | spawn moves =>
      cases moves with
      | exec => exact .inr .executing
      | fail => exact .failed

theorem Refused.moves (h : Refused command cause r) (moves : Moves task t r e r' t')
    (stays : e ≠ .return) : Refused command cause r' ∧ e.refusal? = none := by
  cases h with
  | failed =>
    cases moves with
    | spawn moves =>
      cases moves with
      | discard => exact ⟨.leaving, rfl⟩
  | leaving =>
    cases moves with
    | spawn moves =>
      cases moves with
      | unlock => exact ⟨.done, rfl⟩
  | done =>
    cases moves with
    | spawn moves => cases moves
    | fail => exact ⟨.finished, rfl⟩
  | finished =>
    cases moves with
    | rest => exact absurd rfl stays

theorem Started.moves (h : Started r) (moves : Moves task t r e r' t') (stays : e ≠ .return) :
    Started r' ∧ e.refusal? = none := by
  cases h with
  | executing =>
    cases moves with
    | spawn moves =>
      cases moves with
      | register => exact ⟨.leaving, rfl⟩
  | leaving =>
    cases moves with
    | spawn moves =>
      cases moves with
      | unlock => exact ⟨.done, rfl⟩
  | done =>
    cases moves with
    | spawn moves => cases moves
    | launch => exact ⟨.waiting, rfl⟩
  | waiting =>
    cases moves with
    | receive => exact ⟨.detaching, rfl⟩
    | relay => exact ⟨.waiting, rfl⟩
  | detaching =>
    cases moves with
    | wind => exact ⟨.detaching, rfl⟩
    | detach => exact ⟨.finished, rfl⟩
  | finished =>
    cases moves with
    | rest => exact absurd rfl stays

/-- The runner as if it had not been called. -/
def uncalled : Runner → Runner
  | .spawning _ _ receivers | .finished _ receivers => .idle (some receivers)
  | r => r

/-- The table as if the runner had not been called. -/
def unlocked (r : Runner) (t : Table) : Table := if r.isInside then { t with holder := none } else t

theorem uncalled_arrive (r : Runner) (s : Signal) :
    (r.arrive s).uncalled = r.uncalled.arrive s := by
  cases r <;> rfl

theorem unlocked_arrive (r : Runner) (s : Signal) (t : Table) :
    (r.arrive s).unlocked t = r.unlocked t := by
  cases r <;> rfl

theorem unlocked_waiters (r : Runner) (t : Table) : (r.unlocked t).waiters = t.waiters := by
  unfold unlocked
  split <;> rfl

theorem unlocked_slots (r : Runner) (t : Table) : (r.unlocked t).slots = t.slots := by
  unfold unlocked
  split <;> rfl

/-- What shows of a call: not that the lock has been taken, as it is given back. -/
structure Hides (r : Runner) (t : Table) (e : Event) (r' : Runner) (t' : Table) : Prop where
  runner : r'.uncalled = r.uncalled
  table : r'.unlocked t' = r.unlocked t
  receivers : r.signalled? e = none

/-- Up to where the program runs, the steps of the runner are nothing to anybody else. -/
theorem Undecided.hides (h : Undecided command r) (moves : Moves task t r e r' t') :
    Hides r t e r' t' := by
  cases h with
  | queued =>
    cases moves with
    | spawn moves =>
      cases moves with
      | lock free =>
        refine ⟨rfl, ?_, rfl⟩
        simp [unlocked, isInside, Spawning.isInside, ← free]
  | locked =>
    cases moves with
    | spawn moves => cases moves <;> exact ⟨rfl, rfl, rfl⟩
  | forked =>
    cases moves with
    | spawn moves => cases moves <;> exact ⟨rfl, rfl, rfl⟩

theorem Refused.hides (h : Refused command cause r) (moves : Moves task t r e r' t') :
    Hides r t e r' t' := by
  cases h with
  | failed | leaving =>
    cases moves with
    | spawn moves =>
      cases moves
      exact ⟨rfl, rfl, rfl⟩
  | done =>
    cases moves with
    | spawn moves => cases moves
    | fail => exact ⟨rfl, rfl, rfl⟩
  | finished =>
    cases moves with
    | rest => exact ⟨rfl, rfl, rfl⟩

end Runner

namespace Career

def Event.isForeign : Event → Bool
  | .act (.step _) => false
  | _ => true

variable {self : TaskId} {s s' : Career} {e : Event} {es mid : List Event}
variable {command : Command} {cause : Cause} {receivers : Receivers}

/-- The state as if the runner had not been called. -/
def uncalled (s : Career) : Career := { s with
  runner := s.runner.uncalled
  table := s.runner.unlocked s.table }

theorem uncalled_of_idle {receivers : Option Receivers} (h : s.runner = .idle receivers) :
    s.uncalled = s := by
  cases s with
  | mk =>
    cases h
    rfl

/-- While the runner holds the lock, the others do nothing that has to do with the table. -/
theorem Exclusive.other_moves {task : TaskId} {w' : Work} {event : Work.Event} {t' : Table}
    (h : s.Exclusive self) (inside : s.runner.isInside = true) (ne : task ≠ self)
    (moves : Work.Moves task s.table (s.others task) event w' t') :
    t' = s.table ∧ ∀ u, (s.others task).step task u event = some (w', u) := by
  have held := h.runner.1 inside
  have outside : ¬(s.others task).isInside = true := by
    rw [h.others task ne, held, Option.some.injEq]
    exact ne.symm
  generalize s.others task = w at moves outside
  cases moves with
  | start | sweep | started | swept => exact ⟨rfl, fun _ => rfl⟩
  | spawn moves =>
    rcases moves.free_or_inside with free | inside
    · exact nomatch free.symm.trans held
    · exact absurd inside outside
  | pass moves =>
    rcases moves.free_or_inside with free | inside
    · exact nomatch free.symm.trans held
    · exact absurd inside outside

/-- What others do, they can do as well if the runner has not been called. -/
theorem Step.uncalled (h : Step self s e s') (exclusive : s.Exclusive self)
    (foreign : e.isForeign = true) : Step self s.uncalled e s'.uncalled := by
  cases h with
  | @register receivers idle =>
    have idle' : s.runner.register = .idle (some (receivers.getD {})) := by
      rw [idle]
      cases receivers <;> rfl
    rw [uncalled_of_idle idle, uncalled_of_idle idle']
    exact .register idle
  | arrive =>
    simp only [Career.uncalled, Runner.uncalled_arrive, Runner.unlocked_arrive]
    exact .arrive
  | step => cases foreign
  | other ne step =>
    cases inside : s.runner.isInside with
    | true =>
      obtain ⟨rfl, any⟩ := exclusive.other_moves inside ne (.of_step step)
      exact .other ne (any _)
    | false =>
      simp only [Career.uncalled, Runner.unlocked, inside]
      exact .other ne step
  | drop =>
    cases inside : s.runner.isInside <;> simp only [Career.uncalled, Runner.unlocked, inside] <;>
      exact .drop

theorem Step.hidden {event : Runner.Event} (h : Step self s (.act (.step event)) s')
    (hides : ∀ r' t', Runner.Moves self s.table s.runner event r' t' →
      s.runner.Hides s.table event r' t') : s'.uncalled = s.uncalled := by
  cases h with
  | step step =>
    obtain ⟨runner, table, receivers⟩ := hides _ _ (.of_step step)
    simp only [Career.uncalled, runner, table, receivers, Option.toList_none, List.append_nil]

theorem Event.isForeign_or (e : Event) :
    e.isForeign = true ∨ ∃ event, e = .act (.step event) := by
  cases e with
  | act act =>
    cases act with
    | step event => exact .inr ⟨event, rfl⟩
    | register | arrive => exact .inl rfl
  | other | drop => exact .inl rfl

/-- Others change nothing about how far a call is. -/
theorem Step.stage {P : Runner → Prop} (h : Step self s e s') (foreign : e.isForeign = true)
    (arrive : ∀ {r} signal, P r → P (r.arrive signal)) (busy : ∀ {receivers}, ¬P (.idle receivers))
    (before : P s.runner) : P s'.runner := by
  cases h with
  | register idle => exact absurd (idle ▸ before) busy
  | arrive => exact arrive _ before
  | step => cases foreign
  | other | drop => exact before

/-- No command is registered or collected, and nothing is done to the receivers. -/
def Harmless (s : Career) (e : Event) (s' : Career) : Prop :=
  e.isForeign = true ∨ s'.table.waiters = s.table.waiters ∧ s'.table.slots = s.table.slots ∧
    s'.record = s.record

theorem harmless_of_hidden (h : s'.uncalled = s.uncalled) : Harmless s e s' := by
  have table := congrArg Career.table h
  have record := congrArg Career.record h
  refine .inr ⟨?_, ?_, record⟩
  · have waiters := congrArg Table.waiters table
    rwa [uncalled, uncalled, Runner.unlocked_waiters, Runner.unlocked_waiters] at waiters
  · have slots := congrArg Table.slots table
    rwa [uncalled, uncalled, Runner.unlocked_slots, Runner.unlocked_slots] at slots

/-- The others can do what they do without the call, and come to the same. -/
structure Traceless (task : TaskId) (s : Career) (es : List Event) (s' : Career) : Prop where
  harmless : Run (fun u e u' => Step task u e u' ∧ Harmless u e u') s es s'
  erased : Run (Step task) s.uncalled (es.filter Event.isForeign) s'.uncalled

theorem Traceless.foreign {t : Career} (step : Step self s e t) (exclusive : s.Exclusive self)
    (foreign : e.isForeign = true) (rest : Traceless self t es s') :
    Traceless self s (e :: es) s' := by
  constructor
  · exact .cons ⟨step, .inl foreign⟩ rest.harmless
  · rw [List.filter_cons_of_pos foreign]
    exact .cons (step.uncalled exclusive foreign) rest.erased

theorem Traceless.own {t : Career} {event : Runner.Event}
    (step : Step self s (.act (.step event)) t) (hidden : t.uncalled = s.uncalled)
    (rest : Traceless self t es s') : Traceless self s (.act (.step event) :: es) s' := by
  constructor
  · exact .cons ⟨step, harmless_of_hidden hidden⟩ rest.harmless
  · rw [List.filter_cons_of_neg (by simp [Event.isForeign]), ← hidden]
    exact rest.erased

def NoRefusal (es : List Event) : Prop := ∀ event, .act (.step event) ∈ es → event.refusal? = none

theorem NoRefusal.cons_foreign (h : NoRefusal es) (foreign : e.isForeign = true) :
    NoRefusal (e :: es) := by
  intro event he
  rcases List.mem_cons.1 he with rfl | he
  · cases foreign
  · exact h event he

theorem NoRefusal.cons {event : Runner.Event} (h : NoRefusal es) (head : event.refusal? = none) :
    NoRefusal (.act (.step event) :: es) := by
  intro event' he
  rcases List.mem_cons.1 he with he | he
  · cases he
    exact head
  · exact h event' he

theorem Traceless.append {t : Career} {fs : List Event} (first : Traceless self s es t)
    (second : Traceless self t fs s') : Traceless self s (es ++ fs) s' := by
  constructor
  · exact first.harmless.append second.harmless
  · rw [List.filter_append]
    exact first.erased.append second.erased

theorem Step.moves {event : Runner.Event} (h : Step self s (.act (.step event)) s') :
    ∃ t', Runner.Moves self s.table s.runner event s'.runner t' := by
  cases h with
  | step step => exact ⟨_, .of_step step⟩

theorem started_along (run : Run (Step self) s es s') (started : s.runner.Started)
    (stays : .act (.step .return) ∉ es) : NoRefusal es := by
  induction run with
  | nil => exact nofun
  | @cons s e t es s' step _ ih =>
    rw [List.mem_cons, not_or] at stays
    rcases e.isForeign_or with foreign | ⟨event, rfl⟩
    · have started' := step.stage foreign (fun signal h => h.arrive signal) nofun started
      exact (ih started' stays.2).cons_foreign foreign
    · obtain ⟨t', moves⟩ := step.moves
      have goesOn : event ≠ .return := by
        rintro rfl
        exact stays.1 rfl
      obtain ⟨started', head⟩ := started.moves moves goesOn
      exact (ih started' stays.2).cons head

theorem refused_along (run : Run (Step self) s es s') (exclusive : s.Exclusive self)
    (refused : s.runner.Refused command cause) (stays : .act (.step .return) ∉ es) :
    s'.runner.Refused command cause ∧ Traceless self s es s' ∧ NoRefusal es := by
  induction run with
  | nil => exact ⟨refused, ⟨.nil, .nil⟩, nofun⟩
  | @cons s e t es s' step _ ih =>
    rw [List.mem_cons, not_or] at stays
    have exclusive' := exclusive.step step
    rcases e.isForeign_or with foreign | ⟨event, rfl⟩
    · have refused' := step.stage foreign (fun signal h => h.arrive signal) nofun refused
      obtain ⟨last, traceless, none⟩ := ih exclusive' refused' stays.2
      exact ⟨last, traceless.foreign step exclusive foreign, none.cons_foreign foreign⟩
    · obtain ⟨t', moves⟩ := step.moves
      have goesOn : event ≠ .return := by
        rintro rfl
        exact stays.1 rfl
      obtain ⟨refused', head⟩ := refused.moves moves goesOn
      obtain ⟨last, traceless, none⟩ := ih exclusive' refused' stays.2
      have hidden := step.hidden fun _ _ => refused.hides
      exact ⟨last, traceless.own step hidden, none.cons head⟩

theorem undecided_along (run : Run (Step self) s es s') (exclusive : s.Exclusive self)
    (undecided : s.runner.Undecided command) (stays : .act (.step .return) ∉ es)
    {event : Runner.Event} (he : .act (.step event) ∈ es) (refusal : event.refusal? = some cause) :
    s'.runner.Refused command cause ∧ Traceless self s es s' := by
  induction run with
  | nil => cases he
  | @cons s e t es s' step rest ih =>
    rw [List.mem_cons, not_or] at stays
    have exclusive' := exclusive.step step
    rcases e.isForeign_or with foreign | ⟨first, rfl⟩
    · have undecided' := step.stage foreign (fun signal h => h.arrive signal) nofun undecided
      rcases List.mem_cons.1 he with rfl | he
      · cases foreign
      obtain ⟨last, traceless⟩ := ih exclusive' undecided' stays.2 he
      exact ⟨last, traceless.foreign step exclusive foreign⟩
    · obtain ⟨t', moves⟩ := step.moves
      have hidden := step.hidden fun _ _ => undecided.hides
      have next := undecided.moves moves
      cases decided : first.refusal? with
      | some other =>
        rw [decided] at next
        obtain ⟨last, traceless, none⟩ := refused_along rest exclusive' next stays.2
        rcases List.mem_cons.1 he with same | he
        · cases same
          cases decided.symm.trans refusal
          exact ⟨last, traceless.own step hidden⟩
        · exact nomatch (none event he).symm.trans refusal
      | none =>
        rw [decided] at next
        have he : .act (.step event) ∈ es := by
          rcases List.mem_cons.1 he with same | he
          · cases same
            exact nomatch decided.symm.trans refusal
          · exact he
        cases next with
        | inl undecided' =>
          obtain ⟨last, traceless⟩ := ih exclusive' undecided' stays.2 he
          exact ⟨last, traceless.own step hidden⟩
        | inr started =>
          have none := started_along rest started stays.2
          exact nomatch (none event he).symm.trans refusal

/-- While nobody calls, the receivers take in what arrives. -/
theorem held_along (run : Run (Step self) s es s') (foreign : ∀ e ∈ es, e.isForeign = true)
    (idle : s.runner = .idle (some receivers)) :
    ∃ receivers', s'.runner = .idle (some receivers') ∧ ∀ x, receivers'.held x = true ↔
      receivers.held x = true ∨ x ∈ Signal.forwarded ∧ .act (.arrive x) ∈ es := by
  induction run generalizing receivers with
  | nil => exact ⟨receivers, idle, by simp⟩
  | @cons s e t es s' step _ ih =>
    rw [List.forall_mem_cons] at foreign
    cases step with
    | register =>
      obtain ⟨receivers', idle', held⟩ := ih foreign.2 (by rw [idle]; rfl)
      exact ⟨receivers', idle', by simpa using held⟩
    | @arrive signal =>
      have arrived : s.runner.arrive signal = .idle (some (receivers.arrive signal)) := by
        rw [idle]
        rfl
      obtain ⟨receivers', idle', held⟩ := ih foreign.2 arrived
      refine ⟨receivers', idle', ?_⟩
      intro x
      rw [held, Receivers.arrive_held]
      grind
    | step => cases foreign.1
    | other | drop =>
      obtain ⟨receivers', idle', held⟩ := ih foreign.2 idle
      exact ⟨receivers', idle', by simpa using held⟩

/-- One call, with everything that happens meanwhile. -/
def call (command : Command) (mid : List Event) : List Event :=
  .act (.step (.begin command)) :: (mid ++ [.act (.step .return)])

/-- A call from one idle state to another that has failed to start its command. -/
structure Invisible (task : TaskId) (s : Career) (receivers : Receivers) (command : Command)
    (cause : Cause) (mid : List Event) (s' : Career) : Prop where
  answer : ∃ t receivers', Run (Step task) s (.act (.step (.begin command)) :: mid) t ∧
    t.runner = .finished (.error (.spawnFailed command.program cause)) receivers' ∧
      Step task t (.act (.step .return)) s'
  /-- Each step of the call leaves the commands at the table and the receivers alone, so no signal
  is sent. -/
  harmless : Run (fun u e u' => Step task u e u' ∧ Harmless u e u') s (call command mid) s'
  kept : ∃ receivers', s'.runner = .idle (some receivers') ∧ ∀ x, receivers'.held x = true ↔
    receivers.held x = true ∨ x ∈ Signal.forwarded ∧ .act (.arrive x) ∈ mid
  erased : Run (Step task) s (mid.filter Event.isForeign) s'
  onward : ∀ fs s'', Run (Step task) s (call command mid ++ fs) s'' ↔
    Run (Step task) s (mid.filter Event.isForeign ++ fs) s''

theorem begins {t : Career} (step : Step self s (.act (.step (.begin command))) t)
    (idle : s.runner = .idle (some receivers)) :
    t.runner.Undecided command ∧ t.uncalled = s.uncalled := by
  obtain ⟨t', moves⟩ := step.moves
  constructor
  · rw [idle] at moves
    generalize t.runner = r at moves
    cases moves
    exact .queued
  · apply step.hidden
    intro r' t' moves
    rw [idle] at moves ⊢
    cases moves
    exact ⟨rfl, rfl, rfl⟩

theorem returns {t : Career} (step : Step self t (.act (.step .return)) s')
    (refused : t.runner.Refused command cause) :
    (∃ receivers, t.runner = .finished (.error (.spawnFailed command.program cause)) receivers) ∧
      (∃ receivers, s'.runner = .idle receivers) ∧ s'.uncalled = t.uncalled := by
  obtain ⟨t', moves⟩ := step.moves
  refine ⟨?_, ?_, step.hidden fun _ _ => refused.hides⟩
  · generalize t.runner = r at moves refused
    cases refused with
    | finished => exact ⟨_, rfl⟩
    | _ => cases moves
  · generalize t.runner = r, s'.runner = r' at moves
    cases moves
    exact ⟨_, rfl⟩

theorem traceless_call (run : Run (Step self) s (call command mid) s')
    (exclusive : s.Exclusive self) (idle : s.runner = .idle (some receivers))
    (stays : .act (.step .return) ∉ mid) {event : Runner.Event} (he : .act (.step event) ∈ mid)
    (refusal : event.refusal? = some cause) :
    ∃ t, Run (Step self) s (.act (.step (.begin command)) :: mid) t ∧
      t.runner.Refused command cause ∧ Step self t (.act (.step .return)) s' ∧
        Traceless self s (call command mid) s' := by
  cases run with
  | @cons _ _ first _ _ begin rest =>
    obtain ⟨t, second, third⟩ := rest.split
    cases third with
    | cons last done =>
      obtain rfl := Run.nil_iff.1 done
      obtain ⟨undecided, hidden⟩ := begins begin idle
      obtain ⟨refused, traceless⟩ :=
        undecided_along second (exclusive.step begin) undecided stays he refusal
      obtain ⟨_, _, hidden'⟩ := returns last refused
      refine ⟨t, .cons begin second, refused, last, ?_⟩
      exact .own begin hidden (traceless.append (.own last hidden' ⟨.nil, .nil⟩))

theorem invisible_of_call (run : Run (Step self) s (call command mid) s')
    (exclusive : s.Exclusive self) (idle : s.runner = .idle (some receivers))
    (stays : .act (.step .return) ∉ mid) {event : Runner.Event} (he : .act (.step event) ∈ mid)
    (refusal : event.refusal? = some cause) :
    Invisible self s receivers command cause mid s' := by
  obtain ⟨t, first, refused, last, traceless⟩ :=
    traceless_call run exclusive idle stays he refusal
  obtain ⟨⟨receivers', finished⟩, ⟨_, idle'⟩, _⟩ := returns last refused
  have erased : Run (Step self) s (mid.filter Event.isForeign) s' := by
    have erased := traceless.erased
    rw [uncalled_of_idle idle, uncalled_of_idle idle'] at erased
    simpa [call, Event.isForeign] using erased
  refine ⟨⟨t, receivers', first, finished, last⟩, traceless.harmless, ?_, erased, ?_⟩
  · obtain ⟨receivers', idle', held⟩ := held_along erased (by simp) idle
    refine ⟨receivers', idle', ?_⟩
    intro x
    simpa [Event.isForeign] using held x
  · intro fs s''
    constructor
    · intro both
      obtain ⟨u, before, after⟩ := both.split
      obtain rfl := run_deterministic run before
      exact erased.append after
    · intro both
      obtain ⟨u, before, after⟩ := both.split
      obtain rfl := run_deterministic erased before
      exact run.append after

theorem register_iff (idle : s.runner = .idle (some receivers)) :
    Step self s (.act .register) s' ↔ s' = s := by
  have same : Step self s (.act .register) s := by
    have step : Step self s (.act .register) _ := .register idle
    cases s with
    | mk runner record table others =>
      cases idle
      simpa [Runner.register, Runner.forwarder] using step
  constructor
  · intro step
    exact step.deterministic same
  · rintro rfl
    exact same

theorem failed_call_invisible (run : Run (Step self) {} es s) : Tenure es s ∧
    ∀ receivers, s.runner = .idle (some receivers) →
      (∀ s', Step self s (.act .register) s' ↔ s' = s) ∧
      ∀ command mid event cause s', Run (Step self) s (call command mid) s' →
        .act (.step .return) ∉ mid → .act (.step event) ∈ mid → event.refusal? = some cause →
        Invisible self s receivers command cause mid s' := by
  refine ⟨tenure_of_run run, ?_⟩
  intro receivers idle
  refine ⟨fun s' => register_iff idle, ?_⟩
  intro command mid event cause s' called stays he refusal
  exact invisible_of_call called (exclusive_of_run run) idle stays he refusal

/-- A command that cannot be executed, while signals arrive and another task makes a pass. -/
def unexecutable : List Event := [
  .act (.step (.spawn .lock)), .act (.step (.spawn (.fork (.ok 7)))), .other 1 .sweep,
  .act (.step (.spawn (.exec (some 2)))), .act (.arrive 10), .act (.step (.spawn .discard)),
  .act (.step (.spawn .unlock)), .other 1 (.pass .lock), .act (.step .launch)]

theorem run_unexecutable : ∃ s receivers, Run (Step 0) {} [.act .register, .act (.arrive 15)] s ∧
    s.runner = .idle (some receivers) ∧ receivers.held 15 = true ∧
    ∃ s', Run (Step 0) s (call ⟨"missing", []⟩ unexecutable) s' ∧ s'.table.holder = some 1 := by
  refine ⟨{ runner := .idle (some (.arrive {} 15)), record := [.register, .arrive 15] }, _, ?_, rfl,
    rfl, ?_⟩
  · exact .cons (.register rfl) (.single .arrive)
  · refine Run.exists_cons (.step rfl) ?_
    refine Run.exists_cons (.step rfl) ?_
    refine Run.exists_cons (.step rfl) ?_
    refine Run.exists_cons (.other (by decide) rfl) ?_
    refine Run.exists_cons (.step rfl) ?_
    refine Run.exists_cons .arrive ?_
    refine Run.exists_cons (.step rfl) ?_
    refine Run.exists_cons (.step rfl) ?_
    refine Run.exists_cons (.other (by decide) rfl) ?_
    refine Run.exists_cons (.step rfl) ?_
    exact ⟨_, .single (.step rfl), rfl⟩

theorem failed_call_invisible_amid_pass : ∃ s receivers s',
    Run (Step 0) {} [.act .register, .act (.arrive 15)] s ∧
    s.runner = .idle (some receivers) ∧ receivers.held 15 = true ∧ s'.table.holder = some 1 ∧
    Invisible 0 s receivers ⟨"missing", []⟩ (.errno 2) unexecutable s' := by
  obtain ⟨s, receivers, run, idle, held, s', called, inside⟩ := run_unexecutable
  have calls := ((failed_call_invisible run).2 receivers idle).2
  refine ⟨s, receivers, s', run, idle, held, inside, ?_⟩
  apply calls _ _ (.spawn (.exec (some 2))) _ _ called
  · simp [unexecutable]
  · simp [unexecutable]
  · rfl

end Career

end PidOne
