import PidOne.Proofs.Supervision.Groups
import PidOne.Proofs.Supervision.Sequential

/-!
# A whole run

What holds of table, relay and reaper from the start of a supervisor to its result and after it.
-/

namespace PidOne.Supervision

open Kernel

variable {s s' : Supervision} {m : Shared} {e : Event} {es : List Event} {full : Script}

/-- This child executes the command of the phase in progress. -/
def Executes (s : Supervision) (i : ChildId) (c : Child) : Prop :=
  s.child = some i ∧ s.children i = some c ∧ c.own = true ∧
    ∃ phase command rest, s.supervisor.script = .run phase command rest ∧
      ⟨phase, command, .ok i⟩ ∈ s.attempts

/-- A start whose child has a handle has succeeded. -/
theorem Backed.decisions_of_ticket (h : Backed s m) {command : Command} {progress : Spawning}
    {receivers : Receivers} (ready : s.supervisor.runner = .spawning command progress receivers)
    {ticket : Shared.Ticket} {c : Child} (given : ticket ∈ m.tickets)
    (mine : s.child = some ticket.child) (known : m.children ticket.child = some c)
    (kept : c.life.isOver = false) : decisions s.child progress = [.ok ticket.child] := by
  have main := h.main
  rw [ready, starting] at main
  have fits := h.inv.fits_start main
  have undiscarded : ¬∀ i, s.child = some i → m.Discarded i := by
    intro discarded
    obtain ⟨d, known', past⟩ := discarded _ mine
    cases known.symm.trans known'
    simp [past, Life.isOver] at kept
  have registered pid : ¬∃ i, s.child = some i ∧ m.Unregistered i pid := by
    rintro ⟨i, mine', _, _, _, _, _, other⟩
    cases mine.symm.trans mine'
    exact other ticket given rfl
  cases progress with
  | queued | locked => cases fits.symm.trans mine
  | forked pid | executing pid => exact absurd fits (registered pid)
  | failed pid => exact absurd fits.2 (registered pid)
  | leaving answer | done answer =>
    cases answer with
    | ok => simp [decisions, mine]
    | error => exact absurd fits undiscarded

theorem Current.attempted {current : List Attempt} {started : List Line} {phase : Phase}
    {command : Command} {rest : Except Failure ExitStatus → Script} {g : Pid} {i : ChildId}
    (h : Current s current started) (head : s.supervisor.script = .run phase command rest)
    (bound : s.supervisor.runner.forwarder.group? = some g) (mine : s.child = some i) :
    ⟨phase, command, .ok i⟩ ∈ current := by
  cases ready : s.supervisor.runner with
  | waiting handle relay =>
    obtain ⟨j, mine', rfl, rfl⟩ := h.of_waiting head ready
    cases mine.symm.trans mine'
    exact .head _
  | detaching answer relay =>
    obtain ⟨j, report, mine', _, _, rfl, rfl⟩ := h.of_detaching head ready
    cases mine.symm.trans mine'
    exact .head _
  | idle receivers =>
    cases (Runner.IsIdle.group? ⟨receivers, ready⟩).symm.trans bound
  | spawning | finished =>
    rw [ready] at bound
    cases bound

theorem Follows.executes (h : Follows full s) (backed : Backed s m) (staged : s.supervisor.Staged)
    {ticket : Shared.Ticket} {c : Child} (given : ticket ∈ m.tickets)
    (known : m.children ticket.child = some c) (kept : c.life.isOver = false) :
    s.Executes ticket.child c := by
  obtain ⟨past, lines, current, started, _, running, attempts, _⟩ := h
  -- A handle whose child the kernel keeps is that of the command in progress.
  obtain ⟨mine, working⟩ := backed.issued.live ticket given c known kept
  obtain ⟨n, hn⟩ := List.getElem?_of_mem given
  obtain ⟨d, slot, b⟩ := backed.inv.agree.backs n ticket hn
  cases known.symm.trans b.known
  have unidle : ¬s.supervisor.runner.IsIdle := by
    rintro ⟨receivers, idle⟩
    rw [idle] at working
    cases working
  obtain ⟨phase, command, rest, head⟩ := staged.head_of_busy unidle
  refine ⟨mine, backed.children ▸ known, b.own, phase, command, rest, head, ?_⟩
  rw [attempts]
  refine List.mem_append_right _ ?_
  cases ready : s.supervisor.runner with
  | spawning command' progress receivers =>
    obtain ⟨rfl, rfl, rfl⟩ := running.of_spawning head ready
    simp [backed.decisions_of_ticket ready given mine known kept]
  | waiting handle relay => exact running.attempted head (by rw [ready]; rfl) mine
  | _ =>
    rw [ready] at working
    cases working

theorem Follows.tracked (h : Follows full s) (backed : Backed s m) (staged : s.supervisor.Staged)
    {pid : Pid} (tracked : s.supervisor.table.isTracked pid = true) :
    ∃ i c, s.Executes i c ∧ c.pid = pid ∧ ∀ e, c.life ≠ .collected e := by
  rw [← backed.table] at tracked
  obtain ⟨i, c, has, known, hpid, uncollected⟩ := backed.inv.tracked_iff.1 tracked
  have kept := (backed.inv.kept_iff has known).2 uncollected
  obtain ⟨ticket, given, rfl⟩ := has
  exact ⟨_, c, h.executes backed staged given known kept, hpid, uncollected⟩

theorem Executes.eq {i j : ChildId} {c d : Child} (h : s.Executes i c) (h' : s.Executes j d) :
    c = d := by
  cases h.1.symm.trans h'.1
  exact Option.some.inj (h.2.1.symm.trans h'.2.1)

theorem Follows.single (h : Follows full s) (backed : Backed s m) (staged : s.supervisor.Staged) :
    s.supervisor.table.waiters.length ≤ 1 := by
  have keyed := backed.keyed
  rw [backed.table] at keyed
  have same : ∀ w ∈ s.supervisor.table.waiters, ∃ i c, s.Executes i c ∧ c.pid = w.1 := by
    intro w hw
    obtain ⟨i, c, executes, hpid, _⟩ := h.tracked backed staged
      (Table.isTracked_iff.2 ⟨w.2, keyed.mem_iff.1 hw⟩)
    exact ⟨i, c, executes, hpid⟩
  rw [Table.Keyed] at keyed
  cases hw : s.supervisor.table.waiters with
  | nil => exact Nat.zero_le _
  | cons v rest =>
    cases rest with
    | nil => exact Nat.le_refl _
    | cons w rest =>
      rw [hw] at keyed same
      obtain ⟨i, c, executes, hv⟩ := same v (by simp)
      obtain ⟨j, d, executes', hw⟩ := same w (by simp)
      obtain rfl := executes.eq executes'
      simp [← hv, ← hw] at keyed

theorem Backed.between (h : Backed s m) (idle : s.supervisor.runner.IsIdle) :
    s.supervisor.table.waiters = [] := by
  rw [Table.waiters_eq_nil_iff]
  intro pid
  by_contra waits
  obtain ⟨n, hn⟩ := Option.ne_none_iff_exists'.1 waits
  rw [← h.table, h.inv.agree.waits] at hn
  obtain ⟨ticket, c, given, _, known, kept⟩ := hn
  obtain ⟨_, working⟩ := h.issued.live ticket (List.mem_of_getElem? given) c known kept
  obtain ⟨receivers, idle⟩ := idle
  rw [idle] at working
  cases working

theorem Follows.attached (h : Follows full s) (grouped : s.Grouped) (staged : s.supervisor.Staged)
    {g : Pid} (bound : s.supervisor.runner.forwarder.group? = some g) :
    ∃ i c, s.Executes i c ∧ c.pid = g := by
  obtain ⟨past, lines, current, started, _, running, attempts, _⟩ := h
  obtain ⟨i, c, mine, known, own, hpid⟩ := grouped.attached g bound
  have unidle : ¬s.supervisor.runner.IsIdle := by
    intro idle
    cases (Runner.IsIdle.group? idle).symm.trans bound
  obtain ⟨phase, command, rest, head⟩ := staged.head_of_busy unidle
  refine ⟨i, c, ⟨mine, known, own, phase, command, rest, head, ?_⟩, hpid⟩
  rw [attempts]
  exact List.mem_append_right _ (running.attempted head bound mine)

theorem Step.attached {x : Relay.Event} (step : Step s (.own (.runner (.relay x))) s') :
    ∃ g, s.supervisor.runner.forwarder.group? = some g := by
  cases step with
  | own step =>
    cases Supervisor.Moves.of_step step with
    | runner _ _ moves =>
      generalize s.supervisor.runner = r at moves
      cases moves <;> exact ⟨_, rfl⟩

theorem only_signals (staged : s.supervisor.Staged) {result : Result}
    (done : s.supervisor.script = .done result) (run : Run Step s es s') {event : Supervisor.Event}
    (he : .own event ∈ es) : ∃ x, event = .signal x := by
  induction run with
  | nil => cases he
  | cons step _ ih =>
    have next := step.staged staged
    cases step with
    | kernel | crowd =>
      exact ih staged done ((List.mem_cons.1 he).resolve_left nofun)
    | own step =>
      obtain ⟨only, done'⟩ := staged.only_signals done (.of_step step)
      rcases List.mem_cons.1 he with same | he
      · cases same
        exact only
      · exact ih next done' he

/-- What holds whenever a run has come to this state. -/
structure Orderly (s : Supervision) : Prop where
  single : s.supervisor.table.waiters.length ≤ 1
  tracked : ∀ pid, s.supervisor.table.isTracked pid = true →
    ∃ i c, s.Executes i c ∧ c.pid = pid ∧ ∀ e, c.life ≠ .collected e
  between : s.supervisor.runner.IsIdle → s.supervisor.table.waiters = []
  attached : ∀ g, s.supervisor.runner.forwarder.group? = some g → ∃ i c, s.Executes i c ∧ c.pid = g
  /-- A signal goes to the group of the command in progress, whose number is no other group's. -/
  sends : ∀ x result s', Step s (.own (.runner (.relay (.send x result)))) s' →
    ∃ i c, s.Executes i c ∧ s.supervisor.runner.forwarder.group? = some c.pid ∧
      2 ≤ c.pid ∧ c.pid ≤ 2147483647 ∧ c.pid ≠ s.group ∧
      ∀ j d, s.children j = some d → d.own = true → d.pid = c.pid → j ≠ i → ¬s.Peopled j d
  needed : ¬s.supervisor.runner.IsIdle →
    ∃ r, s.supervisor.reaper = some r ∧ r.stopRequested = false ∧ r.hasEnded = false
  /-- After the result there is nothing but signals that arrive. -/
  returned : ∀ result, s.supervisor.result? = some result →
    s.supervisor.reaper = none ∧ s.supervisor.runner.IsIdle ∧ s.supervisor.table.waiters = [] ∧
      ∀ es s', Run Step s es s' → ∀ event, .own event ∈ es → ∃ x, event = .signal x

theorem orderly_throughout {config : Config} {version : String} {self group : Pid}
    (run : Run Step (start config version self group) es s) : s.Orderly := by
  obtain ⟨staged, m, backed⟩ := backed_of_run run
  have follows := follows_of_run run
  have grouped := grouped_of_run run
  constructor
  case single => exact follows.single backed staged
  case tracked => exact fun _ => follows.tracked backed staged
  case between => exact backed.between
  case attached => exact fun _ => follows.attached grouped staged
  case sends =>
    intro x result s' step
    obtain ⟨g, bound⟩ := step.attached
    obtain ⟨i, c, executes, rfl⟩ := follows.attached grouped staged bound
    obtain ⟨above, below, elsewhere⟩ := grouped.numbered i c executes.2.1 executes.2.2.1
    obtain ⟨d, known, _, alone⟩ := grouped.latest i executes.1
    cases executes.2.1.symm.trans known
    exact ⟨i, c, executes, bound, above, below, elsewhere, alone⟩
  case needed =>
    intro busy
    obtain ⟨phase, command, rest, head⟩ := staged.head_of_busy busy
    exact staged.reaper_of_head head
  case returned =>
    intro result returned
    have done := Supervisor.script_of_result? returned
    obtain ⟨gone, idle⟩ := staged.of_done done
    exact ⟨gone, idle, backed.between idle,
      fun _ _ run _ he => only_signals staged done run he⟩

/-- The signal is sent after the command has ended, while a stranger is left in its group. -/
theorem orderly_if_disturbed : ∃ sending sent returned : Supervision,
    Run Step (start mainOnly "0.1.0" 5 5) (disturbed.take 18) sending ∧
    Step sending (.own (.runner (.relay (.send 15 .undeliverable)))) sent ∧
    Run Step (start mainOnly "0.1.0" 5 5) disturbed returned ∧
    returned.supervisor.result? = some { main := some ⟨true, true⟩ } ∧
    sending.Orderly ∧ returned.Orderly := by
  obtain ⟨returned, run, result, _⟩ := run_disturbed
  have parts : Run Step (start mainOnly "0.1.0" 5 5) (disturbed.take 18 ++
    .own (.runner (.relay (.send 15 .undeliverable))) :: disturbed.drop 19) returned := run
  obtain ⟨sending, sent, before, step, _⟩ := parts.split_at
  exact ⟨sending, sent, returned, before, step, run, result, orderly_throughout before,
    orderly_throughout run⟩

end PidOne.Supervision
