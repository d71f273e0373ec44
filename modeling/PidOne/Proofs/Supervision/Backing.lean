import PidOne.Proofs.Sharing.Tracking
import PidOne.Proofs.Supervision

/-!
# The table of a supervisor as a shared table

A supervisor uses its table as two tasks do that share one: the runner starts a command after the
other, and the reaper makes one pass after the other. So the shared table's invariant holds for it,
and its handles are those of the commands it has started.
-/

namespace PidOne

open Kernel

/-- A task that is outside may be forgotten. -/
theorem Shared.Inv.retire {s : Shared} {task : TaskId} (h : s.Inv)
    (outside : (s.tasks task).isInside = false) : (s.assign task .idle).Inv where
  exclusive := by
    refine h.exclusive_update ?_ fun _ _ => .rfl
    have free := h.exclusive task
    rw [outside] at free
    exact free
  distinct := h.distinct
  agree := h.agree
  fits other := by
    by_cases ho : other = task
    · rw [ho, Shared.tasks_assign_self]
      trivial
    · rw [Shared.tasks_assign_of_ne _ ho]
      exact h.fits other
  once := h.once_update (by simp [Shared.Task.collected])

theorem Kernel.Starts.same {k k' : Children} {event : Spawning.Event} {i : ChildId}
    {child : Option ChildId} (h : Starts k (some i) event child k') : child = some i := by
  cases h <;> rfl

namespace Supervision

/-- What the runner has under way at the table. -/
def starting (child : Option ChildId) : Runner → Shared.Task
  | .spawning _ progress _ => .starting progress child
  | _ => .idle

def reaping (collected : List ChildId) (reaper : Option Reaper) : Shared.Task :=
  match reaper.map Reaper.activity with
  | some (.passing pass) => .reaping pass collected
  | _ => .idle

theorem reaping_arrive (x : Signal) (collected : List ChildId) (reaper : Option Reaper) :
    reaping collected (reaper.map (·.arrive x)) = reaping collected reaper := by
  cases reaper <;> simp [reaping, Reaper.arrive_activity]

theorem reaping_of_ended {reaper : Option Reaper}
    (h : ∀ r, reaper = some r → r.hasEnded = true) (collected : List ChildId) :
    reaping collected reaper = .idle := by
  cases reaper with
  | none => rfl
  | some r =>
    have ended := h r rfl
    cases activity : r.activity <;> simp_all [reaping, Reaper.hasEnded]

/-- Whether the command in progress is being started or waited for. -/
def busy : Runner → Bool
  | .spawning .. | .waiting .. => true
  | _ => false

def awaited? : Runner → Option Handle
  | .waiting child _ => some child
  | _ => none

/-- What two runners have to do with the table is the same. -/
structure SameWork (r r' : Runner) : Prop where
  starting : ∀ child, starting child r' = starting child r
  busy : busy r' = busy r
  awaited : awaited? r' = awaited? r

theorem SameWork.refl (r : Runner) : SameWork r r := ⟨fun _ => rfl, rfl, rfl⟩

theorem SameWork.register (r : Runner) : SameWork r r.register := by
  cases r with
  | idle receivers => cases receivers <;> exact ⟨fun _ => rfl, rfl, rfl⟩
  | _ => exact .refl _

theorem SameWork.arrive (r : Runner) (x : Signal) : SameWork r (r.arrive x) := by
  cases r <;> exact ⟨fun _ => rfl, rfl, rfl⟩

theorem starting_of_awaited {r : Runner} {handle : Handle} (h : awaited? r = some handle)
    (child : Option ChildId) : starting child r = .idle := by
  cases r with
  | waiting => rfl
  | _ => cases h

theorem starting_of_quiet {r : Runner} (h : busy r = false) (child : Option ChildId) :
    starting child r = .idle := by
  cases r with
  | spawning | waiting => cases h
  | _ => rfl

theorem awaited?_of_quiet {r : Runner} (h : busy r = false) : awaited? r = none := by
  cases r with
  | spawning | waiting => cases h
  | _ => rfl

/-- The handles given out so far: of those whose children the kernel still keeps there is one at
most, which is the handle of the command in progress. -/
structure Issued (s : Supervision) (m : Shared) : Prop where
  undropped : ∀ ticket ∈ m.tickets, ticket.custody ≠ .dropped
  live : ∀ ticket ∈ m.tickets, ∀ c, m.children ticket.child = some c → c.life.isOver = false →
    s.child = some ticket.child ∧ busy s.supervisor.runner = true
  awaited : ∀ handle, awaited? s.supervisor.runner = some handle →
    ∃ i custody, s.child = some i ∧ m.tickets[handle.slot]? = some ⟨handle, i, custody⟩

/-- This shared table is the supervisor's. -/
structure Backed (s : Supervision) (m : Shared) : Prop where
  inv : m.Inv
  keyed : m.table.Keyed
  table : m.table = s.supervisor.table
  children : m.children = s.children
  main : m.tasks Supervisor.mainTask = starting s.child s.supervisor.runner
  pass : ∃ collected, m.tasks Supervisor.reaperTask = reaping collected s.supervisor.reaper
  issued : Issued s m

variable {s s' : Supervision} {m m' : Shared} {e : Event} {r' : Runner} {t' : Table}
variable {log : List Line} {attempts : List Attempt} {forked : Option ChildId} {k : Children}

theorem Backed.start (config : Config) (version : String) (self group : Pid) :
    Backed (start config version self group) {} where
  inv := .start
  keyed := .nil
  table := rfl
  children := rfl
  main := rfl
  pass := ⟨[], rfl⟩
  issued := ⟨nofun, nofun, nofun⟩

theorem Issued.live_of_persists (h : Issued s m) (inv : m.Inv) (hs : Shared.Persists m m')
    {ticket : Shared.Ticket} {c : Child} (given : ticket ∈ m.tickets)
    (known : m'.children ticket.child = some c) (kept : c.life.isOver = false) :
    s.child = some ticket.child ∧ busy s.supervisor.runner = true := by
  obtain ⟨n, hn⟩ := List.getElem?_of_mem given
  obtain ⟨d, slot, b⟩ := inv.agree.backs n ticket hn
  refine h.live ticket given d b.known ?_
  by_contra past
  rw [Bool.not_eq_false] at past
  obtain rfl := Option.some.inj ((hs.past _ _ b.known past).symm.trans known)
  cases kept.symm.trans past

theorem Issued.of_persists (h : Issued s m) (inv : m.Inv) (hs : Shared.Persists m m')
    (tickets : m'.tickets = m.tickets) (child : s'.child = s.child)
    (same : SameWork s.supervisor.runner s'.supervisor.runner) : Issued s' m' where
  undropped := tickets ▸ h.undropped
  live ticket hticket c known kept := by
    rw [tickets] at hticket
    rw [child, same.busy]
    exact h.live_of_persists inv hs hticket known kept
  awaited := by
    rw [tickets, child, same.awaited]
    exact h.awaited

theorem Issued.assign (h : Issued s m) (task : TaskId) (work : Shared.Task) :
    Issued s (m.assign task work) := { h with }

/-- While no command is in progress the kernel keeps no child with a handle. -/
theorem Issued.of_quiet (h : Issued s m) (quiet : busy s.supervisor.runner = false)
    (unawaited : awaited? s'.supervisor.runner = none) : Issued s' m where
  undropped := h.undropped
  live ticket hticket c known kept := by
    have live := (h.live ticket hticket c known kept).2
    rw [quiet] at live
    cases live
  awaited handle awaits := by
    rw [unawaited] at awaits
    cases awaits

theorem Backed.same (h : Backed s m) {v : Supervisor} (table : v.table = s.supervisor.table)
    (same : SameWork s.supervisor.runner v.runner)
    (pass : ∀ collected, reaping collected v.reaper = reaping collected s.supervisor.reaper) :
    Backed { s with supervisor := v, attempts } m where
  inv := h.inv
  keyed := h.keyed
  table := h.table.trans table.symm
  children := h.children
  main := h.main.trans (same.starting s.child).symm
  pass := by
    obtain ⟨collected, before⟩ := h.pass
    exact ⟨collected, before.trans (pass collected).symm⟩
  issued := h.issued.of_persists h.inv ⟨fun _ _ h _ => h, .refl _⟩ rfl rfl same

theorem Backed.kernel (h : Backed s m) {event : Kernel.Event} {k : Children}
    (changes : Changes s.children event k) : ∃ m', Backed { s with children := k } m' := by
  rw [← h.children] at changes
  have step : Shared.Step m (.kernel event) { m with children := k } := .kernel changes
  exact ⟨_, { h with
    inv := h.inv.step step
    children := rfl
    issued := h.issued.of_persists h.inv step.persists rfl rfl (.refl _) }⟩

theorem Issued.issue (h : Issued s m) (inv : m.Inv) (hs : Shared.Persists m m')
    {event : Spawning.Event} {progress : Spawning}
    (tickets : m'.tickets = Shared.issue m.tickets event progress s'.child)
    (child : ∀ i, s.child = some i → s'.child = some i)
    (starting : busy s'.supervisor.runner = true)
    (unawaited : awaited? s'.supervisor.runner = none) : Issued s' m' where
  undropped ticket hticket := by
    rw [tickets] at hticket
    rcases Shared.mem_issue hticket with ⟨old, hold, rfl | rfl⟩ | ⟨_, _, _, issuing⟩
    · exact h.undropped _ hold
    · exact nofun
    · rw [issuing]
      exact nofun
  live ticket hticket c known kept := by
    refine ⟨?_, starting⟩
    -- A handle of before belongs to a child that is gone or to this one; the new one to this one.
    rw [tickets] at hticket
    rcases Shared.mem_issue hticket with ⟨old, hold, same⟩ | ⟨_, _, mine, _⟩
    · have same : ticket.child = old.child := by rcases same with rfl | rfl <;> rfl
      rw [same] at known ⊢
      exact child _ (h.live_of_persists inv hs hold known kept).1
    · exact mine
  awaited handle awaits := by
    rw [unawaited] at awaits
    cases awaits

theorem Backed.spawn (h : Backed s m) {command : Command} {progress progress' : Spawning}
    {receivers : Receivers} {event : Spawning.Event}
    (ready : s.supervisor.runner = .spawning command progress receivers)
    (moves : Spawning.Moves Supervisor.mainTask s.supervisor.table progress event progress' t')
    (starts : Starts s.children s.child event forked k) :
    ∃ m', Backed { s with
      supervisor := { s.supervisor with
        runner := .spawning command progress' receivers, table := t', log }
      children := k
      child := forked
      attempts } m' := by
  have child : ∀ i, s.child = some i → forked = some i := by
    intro i hi
    rw [hi] at starts
    exact starts.same
  rw [← h.table] at moves
  rw [← h.children] at starts
  have main := h.main
  rw [ready, starting] at main
  have step := Shared.Step.spawn main (Spawning.step_eq_some.2 moves) starts
  refine ⟨_, h.inv.step step, (h.inv.remaps step).keyed h.keyed, rfl, rfl,
    Shared.tasks_assign_self .., ?_, h.issued.issue h.inv step.persists rfl child rfl rfl⟩
  obtain ⟨collected, pass⟩ := h.pass
  exact ⟨collected, (Shared.tasks_assign_of_ne _ (by decide) _).trans pass⟩

/-- The start is over: its command is waited for, or has been refused and left nothing behind. -/
theorem Backed.launch (h : Backed s m) {command : Command} {answer : Except Cause Handle}
    {receivers : Receivers}
    (ready : s.supervisor.runner = .spawning command (.done answer) receivers)
    (unready : starting s.child r' = .idle)
    (waits : ∀ handle, answer = .ok handle → busy r' = true ∧ awaited? r' = some handle)
    (fails : ∀ cause, answer = .error cause → awaited? r' = none) :
    ∃ m', Backed { s with supervisor := { s.supervisor with runner := r', log }, attempts } m' := by
  have main := h.main
  rw [ready, starting] at main
  have fits := h.inv.fits_start main
  refine ⟨m.assign Supervisor.mainTask .idle, h.inv.retire (by rw [main]; rfl), h.keyed, h.table,
    h.children, (Shared.tasks_assign_self ..).trans unready.symm, ?_, h.issued.undropped, ?_, ?_⟩
  · obtain ⟨collected, pass⟩ := h.pass
    exact ⟨collected, (Shared.tasks_assign_of_ne _ (by decide) _).trans pass⟩
  · intro ticket hticket c known kept
    obtain ⟨mine, _⟩ := h.issued.live ticket hticket c known kept
    refine ⟨mine, ?_⟩
    cases answer with
    | ok handle => exact (waits handle rfl).1
    | error cause =>
      obtain ⟨d, known', past⟩ := fits _ mine
      obtain rfl := Option.some.inj (known'.symm.trans known)
      simp [past, Life.isOver] at kept
  · intro handle awaits
    cases answer with
    | ok handle' =>
      obtain ⟨i, custody, mine, _, given⟩ := fits
      obtain rfl := Option.some.inj ((waits handle' rfl).2.symm.trans awaits)
      exact ⟨i, custody, mine, given⟩
    | error cause => cases (fails cause rfl).symm.trans awaits

theorem Backed.child_of_started (h : Backed s m) {command : Command} {handle : Handle}
    {receivers : Receivers}
    (ready : s.supervisor.runner = .spawning command (.done (.ok handle)) receivers) :
    ∃ i c, s.child = some i ∧ s.children i = some c ∧ c.own = true ∧ c.pid = handle.pid := by
  have main := h.main
  rw [ready, starting] at main
  obtain ⟨i, custody, mine, _, given⟩ := h.inv.fits_start main
  obtain ⟨c, slot, b⟩ := h.inv.agree.backs _ _ given
  exact ⟨i, c, mine, h.children ▸ b.known, b.own, b.pid⟩

theorem Backed.answered (h : Backed s m) {handle : Handle} {answer : Except Failure ExitStatus}
    (awaits : awaited? s.supervisor.runner = some handle)
    (answers : s.supervisor.table.poll handle = some answer) : ∃ i c e, s.child = some i ∧
      s.children i = some c ∧ c.own = true ∧ c.pid = handle.pid ∧ c.life = .collected e ∧
        answer = .ok (e.status c.pid) := by
  obtain ⟨i, custody, mine, given⟩ := h.issued.awaited handle awaits
  obtain ⟨c, slot, b⟩ := h.inv.agree.backs _ _ given
  obtain ⟨c', known, poll⟩ := h.inv.agree.poll given
    (h.issued.undropped _ (List.mem_of_getElem? given))
  obtain rfl := Option.some.inj (b.known.symm.trans known)
  rw [h.table, answers, eq_comm] at poll
  refine ⟨i, c, ?_⟩
  cases life : c.life with
  | collected e =>
    rw [life, Life.answer?, Option.some.injEq] at poll
    exact ⟨e, mine, h.children ▸ b.known, b.own, b.pid, rfl, poll.symm⟩
  | _ => simp [life, Life.answer?] at poll

theorem Backed.receive (h : Backed s m) {handle : Handle} {answer : Except Failure ExitStatus}
    (awaits : awaited? s.supervisor.runner = some handle)
    (answers : s.supervisor.table.poll handle = some answer)
    (unready : starting s.child r' = .idle) (unawaited : awaited? r' = none) :
    Backed { s with supervisor := { s.supervisor with runner := r', log }, attempts } m := by
  obtain ⟨i, c, e, mine, known, _, _, life, _⟩ := h.answered awaits answers
  refine { h with main := ?_, issued := ⟨h.issued.undropped, ?_, ?_⟩ }
  · rw [h.main, starting_of_awaited awaits]
    exact unready.symm
  · intro ticket hticket d known' kept
    obtain ⟨same, _⟩ := h.issued.live ticket hticket d known' kept
    obtain rfl := Option.some.inj (mine.symm.trans same)
    obtain rfl := Option.some.inj (known.symm.trans (h.children ▸ known'))
    simp [life, Life.isOver] at kept
  · intro other awaits'
    cases unawaited.symm.trans awaits'

theorem Backed.runner (h : Backed s m) {e : Runner.Event}
    (moves : Runner.Moves Supervisor.mainTask s.supervisor.table s.supervisor.runner e r' t')
    (goesOn : (∀ command, e ≠ .begin command) ∧ e ≠ .return)
    (serves : s.Serves (.runner e) forked k) : ∃ m', Backed { s with
      supervisor := { s.supervisor with runner := r', table := t', log }
      children := k
      child := forked
      attempts } m' := by
  generalize ready : s.supervisor.runner = r at moves
  cases moves with
  | begin => exact absurd rfl (goesOn.1 _)
  | rest => exact absurd rfl goesOn.2
  | spawn moves =>
    cases serves with
    | spawn starts => exact h.spawn ready moves starts
    | runner other => exact absurd rfl (other _)
  | launch =>
    cases serves
    exact h.launch ready rfl (fun handle same => by cases same; exact ⟨rfl, rfl⟩) nofun
  | fail =>
    cases serves
    exact h.launch ready rfl nofun fun _ _ => rfl
  | receive answers =>
    cases serves
    exact ⟨m, h.receive (by rw [ready]; rfl) answers rfl rfl⟩
  | relay | wind | detach =>
    cases serves
    exact ⟨m, h.same rfl (ready ▸ ⟨fun _ => rfl, rfl, rfl⟩) fun _ => rfl⟩

theorem Backed.of_reaper (h : Backed s m) {v : Supervisor} {work : Shared.Task} (inv : m'.Inv)
    (keyed : m'.table.Keyed) (persists : Shared.Persists m m') (tickets : m'.tickets = m.tickets)
    (tasks : m'.tasks = (m.assign Supervisor.reaperTask work).tasks) (table : m'.table = v.table)
    (children : m'.children = k) (runner : v.runner = s.supervisor.runner)
    (pass : ∃ collected, work = reaping collected v.reaper) :
    Backed { s with supervisor := v, children := k, attempts } m' where
  inv := inv
  keyed := keyed
  table := table
  children := children
  main := by
    rw [runner, tasks, Shared.tasks_assign_of_ne _ (by decide), h.main]
  pass := by
    rw [tasks, Shared.tasks_assign_self]
    exact pass
  issued := h.issued.of_persists h.inv persists tickets rfl (runner ▸ .refl _)

theorem Backed.turn (h : Backed s m) {work : Shared.Task} {v : Supervisor}
    (inv : (m.assign Supervisor.reaperTask work).Inv) (table : v.table = s.supervisor.table)
    (runner : v.runner = s.supervisor.runner) (pass : work = reaping [] v.reaper) :
    ∃ m', Backed { s with supervisor := v, attempts } m' :=
  ⟨_, h.of_reaper inv h.keyed ⟨fun _ _ h _ => h, .refl _⟩ rfl rfl (h.table.trans table.symm)
    h.children runner ⟨[], pass⟩⟩

theorem Backed.wake (h : Backed s m) {v : Supervisor}
    (idle : ∀ collected, reaping collected s.supervisor.reaper = .idle)
    (table : v.table = s.supervisor.table) (runner : v.runner = s.supervisor.runner)
    (woken : .reaping .queued [] = reaping [] v.reaper) :
    ∃ m', Backed { s with supervisor := v, attempts } m' := by
  obtain ⟨collected, pass⟩ := h.pass
  rw [idle] at pass
  exact h.turn (h.inv.step (.begin pass (.inr rfl))) table runner woken

theorem Backed.reaper (h : Backed s m) {r r' : Reaper} {e : Reaper.Event}
    (there : s.supervisor.reaper = some r)
    (moves : Reaper.Moves Supervisor.reaperTask s.supervisor.table r e r' t')
    (serves : s.Serves (.reaper e) forked k) : ∃ m', Backed { s with
      supervisor := { s.supervisor with reaper := some r', table := t', log }
      children := k
      child := forked
      attempts } m' := by
  have pass := h.pass
  rw [there] at pass
  cases moves with
  | pass ready moves =>
    cases serves with
    | reaper other => exact absurd rfl (other _)
    | pass passes =>
      rw [← h.table] at moves
      rw [← h.children] at passes
      obtain ⟨collected, pass⟩ := pass
      simp only [reaping, Option.map_some, ready] at pass
      have step := Shared.Step.pass pass (Pass.step_eq_some.2 moves) passes
      exact ⟨_, h.of_reaper (h.inv.step step) ((h.inv.remaps step).keyed h.keyed) step.persists
        rfl rfl rfl rfl rfl ⟨_, rfl⟩⟩
  | rest ready =>
    cases serves
    obtain ⟨collected, pass⟩ := pass
    simp only [reaping, Option.map_some, ready] at pass
    exact h.turn (h.inv.retire (by rw [pass]; rfl)) rfl rfl rfl
  | stop idle =>
    cases serves
    exact ⟨m, h.same rfl (.refl _) fun _ => by simp [reaping, there, idle]⟩
  | timer idle | childEnded idle =>
    cases serves
    exact h.wake (fun _ => by simp [reaping, there, idle]) rfl rfl rfl

/-- Between two commands it does not matter which child was the last one. -/
theorem Backed.reset (h : Backed s m) (quiet : busy s.supervisor.runner = false) :
    Backed { s with child := none } m where
  inv := h.inv
  keyed := h.keyed
  table := h.table
  children := h.children
  main := by
    rw [h.main, starting_of_quiet quiet, starting_of_quiet quiet]
  pass := h.pass
  issued := h.issued.of_quiet quiet (awaited?_of_quiet quiet)

theorem Backed.advance (h : Backed s m) {v : Supervisor} (staged : s.supervisor.Staged)
    (moves : Supervisor.Moves s.supervisor .advance v) :
    ∃ m', Backed { s with supervisor := v, child := none, attempts } m' := by
  have quiet : busy s.supervisor.runner = false := by
    cases moves with
    | begin _ idle =>
      rw [idle]
      rfl
    | finish _ finished =>
      rw [finished]
      rfl
    | log head | adoptOrphans head | receiveSignals head | startReaper head | requestStop head
    | stopped head =>
      obtain ⟨receivers, idle⟩ := staged.idle (by simp [head])
      rw [idle]
      rfl
  have h := h.reset quiet
  -- Of all these steps only the start of the reaper and that of a command show at the table.
  cases moves with
  | log | adoptOrphans => exact ⟨m, h.same rfl (.refl _) fun _ => rfl⟩
  | receiveSignals => exact ⟨m, h.same rfl (.register _) fun _ => rfl⟩
  | finish head finished =>
    exact ⟨m, h.same rfl (finished ▸ ⟨fun _ => rfl, rfl, rfl⟩) fun _ => rfl⟩
  | requestStop head there => exact ⟨m, h.same rfl (.refl _) fun _ => by rw [there]; rfl⟩
  | stopped head ended =>
    exact ⟨m, h.same rfl (.refl _) fun _ => (reaping_of_ended ended _).symm⟩
  | startReaper head =>
    refine h.wake (reaping_of_ended ?_) rfl rfl rfl
    intro r there
    cases staged with
    | opening _ gone => cases gone.symm.trans there
    | running ahead | closing ahead =>
      rw [head] at ahead
      exact ahead.elim
  | begin head idle =>
    have main : m.tasks Supervisor.mainTask = .idle := h.main.trans (starting_of_quiet quiet _)
    refine ⟨_, h.inv.step (.begin main (.inl rfl)), h.keyed, h.table, h.children,
      Shared.tasks_assign_self .., ?_, ?_⟩
    · obtain ⟨collected, pass⟩ := h.pass
      exact ⟨collected, (Shared.tasks_assign_of_ne _ (by decide) _).trans pass⟩
    · exact (h.issued.of_quiet quiet rfl).assign Supervisor.mainTask _

theorem Backed.step (h : Backed s m) (staged : s.supervisor.Staged) (step : Step s e s') :
    ∃ m', Backed s' m' := by
  cases step with
  | kernel changes => exact h.kernel changes
  | crowd => exact ⟨m, { h with issued := { h.issued with } }⟩
  | own step serves =>
    cases Supervisor.Moves.of_step step with
    | runner head goesOn moves => exact h.runner moves goesOn serves
    | reaper there moves => exact h.reaper there moves serves
    | signal =>
      cases serves
      exact ⟨m, h.same rfl (.arrive _ _) fun _ => reaping_arrive _ _ _⟩
    | _ =>
      cases serves
      exact h.advance staged (.of_step step)

theorem Step.staged (h : s.supervisor.Staged) (step : Step s e s') : s'.supervisor.Staged := by
  cases step with
  | own step => exact h.moves (.of_step step)
  | kernel | crowd => exact h

section

variable {config : Config} {version : String} {self group : Pid} {es : List Event}

theorem backed_of_run (run : Run Step (start config version self group) es s) :
    s.supervisor.Staged ∧ ∃ m, Backed s m := by
  refine run.keeps (P := fun s => s.supervisor.Staged ∧ ∃ m, Backed s m) ?_
    ⟨.start config version self, _, .start config version self group⟩
  rintro s e s' ⟨staged, m, backed⟩ step
  exact ⟨step.staged staged, backed.step staged step⟩

/-- What each step of a supervisor with such a table keeps, each run from its start keeps. -/
theorem keeps_of_run {P : Supervision → Prop}
    (step : ∀ {s e s' m}, s.supervisor.Staged → Backed s m → P s → Step s e s' → P s')
    (run : Run Step (start config version self group) es s)
    (start : P (start config version self group)) : P s := by
  refine run.keeps_reachable (P := P) (Q := fun _ => True) ?_ (fun _ _ => trivial) start
  intro _ _ _ _ reached _ h next
  obtain ⟨staged, m, backed⟩ := backed_of_run reached
  exact step staged backed h next

end

end Supervision

end PidOne
