import PidOne.Proofs.Reading
import PidOne.Proofs.Supervision.Backing

/-!
# The sequential reading of a run

However orphans, passes and signals come between the steps of the supervisor, a run that returns
has come to what its script comes to when each command is run to its end before anything else.
-/

namespace PidOne.Supervision

open Kernel

open Script (Report)

/-- What the kernel has told of an attempt: why it refused the command, or how the child that
executes it has ended. -/
inductive Told (s : Supervision) : Except Cause ChildId → Report → Prop
  | refused : Told s (.error cause) (.refused cause)
  | ended (known : s.children i = some c) (own : c.own = true) (life : c.life = .collected e)
    (decoded : ExitStatus.ofRaw? c.pid e.raw = some status) : Told s (.ok i) (.ended status)

/-- The outcome of a start, as soon as the kernel has decided it. -/
def decisions (child : Option ChildId) : Spawning → List (Except Cause ChildId)
  | .queued | .locked | .forked _ => []
  | .executing _ | .leaving (.ok _) | .done (.ok _) => (child.map .ok).toList
  | .failed _ cause | .leaving (.error cause) | .done (.error cause) => [.error cause]

/-- What has been attempted and logged for the command in progress. -/
inductive Current (s : Supervision) : List Attempt → List Line → Prop
  | idle (idle : s.supervisor.runner.IsIdle) : Current s [] []
  | spawning (head : s.supervisor.script = .run phase command rest)
    (ready : s.supervisor.runner = .spawning command progress receivers) :
    Current s ((decisions s.child progress).map (⟨phase, command, ·⟩)) []
  | waiting (head : s.supervisor.script = .run phase command rest)
    (ready : s.supervisor.runner = .waiting handle relay) (mine : s.child = some i) :
    Current s [⟨phase, command, .ok i⟩] [.spawned phase]
  | detaching (head : s.supervisor.script = .run phase command rest)
    (ready : s.supervisor.runner = .detaching (report.answer command) relay)
    (mine : s.child = some i) (told : Told s (.ok i) report) :
    Current s [⟨phase, command, .ok i⟩] (report.start phase)
  | finished (head : s.supervisor.script = .run phase command rest)
    (ready : s.supervisor.runner = .finished (report.answer command) receivers)
    (told : Told s origin report) : Current s [⟨phase, command, origin⟩] (report.start phase)

def Matches (report : Phase → Command → Report) (past : List (Attempt × Report)) : Prop :=
  ∀ p ∈ past, report p.1.phase p.1.command = p.2

/-- What has been attempted and logged for the commands before. -/
structure History (full : Script) (s : Supervision) (past : List (Attempt × Report))
    (lines : List Line) : Prop where
  told : ∀ p ∈ past, Told s p.1.origin p.2
  consistent : ∃ report, Matches report past
  reads : ∀ report, Matches report past → full.eval report =
    (s.supervisor.script.eval report).after (past.map fun p => (p.1.phase, p.1.command)) lines

/-- The log without what the reaper says in it. -/
def lines (s : Supervision) : List Line := s.supervisor.log.filter (!·.isReapers)

/-- The run so far is the beginning of a reading of the script. -/
def Follows (full : Script) (s : Supervision) : Prop :=
  ∃ past lines current started, History full s past lines ∧ Current s current started ∧
    s.attempts = past.map Prod.fst ++ current ∧ s.lines = lines ++ started

variable {s s' : Supervision} {m : Shared} {e : Event} {full : Script}
variable {past : List (Attempt × Report)} {lines started : List Line} {current : List Attempt}
variable {x : Runner.Event}

theorem Serves.keeps_past {event : Supervisor.Event} {forked : Option ChildId} {k : Children}
    (h : s.Serves event forked k) {i : ChildId} {c : Child} (known : s.children i = some c)
    (past : c.life.isOver = true) : k i = some c := by
  cases h with
  | spawn starts => exact starts.past known past
  | pass passes => exact passes.past known past
  | _ => exact known

theorem Step.keeps_past (h : Step s e s') {i : ChildId} {c : Child} (known : s.children i = some c)
    (past : c.life.isOver = true) : s'.children i = some c := by
  cases h with
  | own _ serves => exact serves.keeps_past known past
  | kernel changes => exact changes.past known past
  | crowd => exact known

theorem Told.step {origin : Except Cause ChildId} {report : Report} (h : Told s origin report)
    (step : Step s e s') : Told s' origin report := by
  cases h with
  | refused => exact .refused
  | ended known own life decoded =>
    exact .ended (step.keeps_past known (by simp [life, Life.isOver])) own life decoded

theorem decisions_step {task : TaskId} {t t' : Table} {progress progress' : Spawning}
    {event : Spawning.Event} {k k' : Children} {child child' : Option ChildId}
    (moves : Spawning.Moves task t progress event progress' t')
    (starts : Starts k child event child' k') :
    decisions child' progress' = decisions child progress ++ (origin? child event).toList := by
  cases moves with
  | @unlock answer =>
    cases starts
    cases answer <;> simp [decisions, origin?]
  | _ =>
    cases starts
    all_goals simp [decisions, origin?]

theorem Current.of_idle (h : Current s current started) (idle : s.supervisor.runner.IsIdle) :
    current = [] ∧ started = [] := by
  obtain ⟨receivers, idle⟩ := idle
  cases h with
  | idle => exact ⟨rfl, rfl⟩
  | spawning _ ready | waiting _ ready | detaching _ ready | finished _ ready =>
    cases idle.symm.trans ready

/-- A step that leaves the command in progress alone, be it that a signal arrives. -/
theorem Current.step (h : Current s current started) (step : Step s e s')
    (script : s'.supervisor.script = s.supervisor.script) (child : s'.child = s.child)
    (runner : s'.supervisor.runner = s.supervisor.runner ∨
      ∃ x, s'.supervisor.runner = s.supervisor.runner.arrive x) : Current s' current started := by
  have ready (r : Runner) (ready : s.supervisor.runner = r) :
      s'.supervisor.runner = r ∨ ∃ x, s'.supervisor.runner = r.arrive x := ready ▸ runner
  cases h with
  | idle idle =>
    obtain ⟨receivers, idle⟩ := idle
    rcases ready _ idle with same | ⟨x, arrived⟩
    · exact .idle ⟨_, same⟩
    · exact .idle ⟨_, arrived⟩
  | spawning head busy =>
    rw [← script] at head
    rw [← child]
    rcases ready _ busy with same | ⟨x, arrived⟩
    · exact .spawning head same
    · exact .spawning head arrived
  | waiting head busy mine =>
    rw [← script] at head
    rw [← child] at mine
    rcases ready _ busy with same | ⟨x, arrived⟩
    · exact .waiting head same mine
    · exact .waiting head arrived mine
  | detaching head busy mine told =>
    rw [← script] at head
    rw [← child] at mine
    rcases ready _ busy with same | ⟨x, arrived⟩
    · exact .detaching head same mine (told.step step)
    · exact .detaching head arrived mine (told.step step)
  | finished head busy told =>
    rw [← script] at head
    rcases ready _ busy with same | ⟨x, arrived⟩
    · exact .finished head same (told.step step)
    · exact .finished head arrived (told.step step)

theorem History.step (h : History full s past lines) (step : Step s e s')
    (same : ∀ report, s'.supervisor.script.eval report = s.supervisor.script.eval report) :
    History full s' past lines where
  told p hp := (h.told p hp).step step
  consistent := h.consistent
  reads report hr := by rw [same, h.reads report hr]

theorem History.own_line (h : History full s past lines) (own : full.Logs) {line : Line}
    {rest : Script} (head : s.supervisor.script = .log line rest) : line.isReapers = false := by
  obtain ⟨report, hr⟩ := h.consistent
  refine own report line ?_
  rw [h.reads report hr, head]
  simp

theorem History.log (h : History full s past lines) (step : Step s e s') {line : Line}
    {rest : Script} (head : s.supervisor.script = .log line rest)
    (next : s'.supervisor.script = rest) : History full s' past (lines ++ [line]) where
  told p hp := (h.told p hp).step step
  consistent := h.consistent
  reads report hr := by
    rw [h.reads report hr, head, next, Script.eval_log, Script.Reading.after_after, List.append_nil]

theorem History.finish (h : History full s past lines) (step : Step s e s')
    (once : ∀ report, ((full.eval report).attempts.map Prod.fst).Nodup) {phase : Phase}
    {command : Command} {rest : Except Failure ExitStatus → Script}
    {origin : Except Cause ChildId} {report : Report}
    (head : s.supervisor.script = .run phase command rest)
    (next : s'.supervisor.script = rest (report.answer command)) (told : Told s origin report) :
    History full s' (past ++ [(⟨phase, command, origin⟩, report)])
      (lines ++ report.start phase) where
  told p hp := by
    rcases List.mem_append.1 hp with hp | hp
    · exact (h.told p hp).step step
    · obtain rfl := List.mem_singleton.1 hp
      exact told.step step
  consistent := by
    -- Each phase is reached once at most, so the new report does not clash with those before.
    obtain ⟨reports, hr⟩ := h.consistent
    have distinct := once reports
    rw [h.reads reports hr, head, Script.eval_run] at distinct
    simp only [Script.Reading.attempts_after, List.map_append, List.nodup_append] at distinct
    have new : ∀ p ∈ past, p.1.phase ≠ phase := fun p hp =>
      distinct.2.2 _ (List.mem_map_of_mem (List.mem_map_of_mem hp)) phase (by simp)
    refine ⟨fun p c => if p = phase then report else reports p c, fun p hp => ?_⟩
    rcases List.mem_append.1 hp with hp | hp
    · simp [new p hp, hr p hp]
    · obtain rfl := List.mem_singleton.1 hp
      simp
  reads reports hr := by
    have before : Matches reports past := fun p hp => hr p (List.mem_append_left _ hp)
    have mine : reports phase command = report := hr _ (List.mem_append_right _ (.head _))
    rw [h.reads reports before, head, next, Script.eval_run, mine]
    simp

section

variable {phase : Phase} {command : Command} {rest : Except Failure ExitStatus → Script}

theorem Current.of_spawning (h : Current s current started)
    (head : s.supervisor.script = .run phase command rest) {c : Command} {progress : Spawning}
    {receivers : Receivers} (ready : s.supervisor.runner = .spawning c progress receivers) :
    c = command ∧ current = (decisions s.child progress).map (⟨phase, command, ·⟩) ∧
      started = [] := by
  cases h with
  | spawning head' ready' =>
    cases head.symm.trans head'
    cases ready.symm.trans ready'
    exact ⟨rfl, rfl, rfl⟩
  | idle idle =>
    obtain ⟨_, idle⟩ := idle
    cases ready.symm.trans idle
  | waiting _ ready' | detaching _ ready' | finished _ ready' => cases ready.symm.trans ready'

theorem Current.of_waiting (h : Current s current started)
    (head : s.supervisor.script = .run phase command rest) {handle : Handle} {relay : Relay}
    (ready : s.supervisor.runner = .waiting handle relay) :
    ∃ i, s.child = some i ∧ current = [⟨phase, command, .ok i⟩] ∧ started = [.spawned phase] := by
  cases h with
  | waiting head' ready' mine =>
    cases head.symm.trans head'
    exact ⟨_, mine, rfl, rfl⟩
  | idle idle =>
    obtain ⟨_, idle⟩ := idle
    cases ready.symm.trans idle
  | spawning _ ready' | detaching _ ready' | finished _ ready' => cases ready.symm.trans ready'

theorem Current.of_detaching (h : Current s current started)
    (head : s.supervisor.script = .run phase command rest) {answer : Except Failure ExitStatus}
    {relay : Relay} (ready : s.supervisor.runner = .detaching answer relay) :
    ∃ i report, s.child = some i ∧ Told s (.ok i) report ∧ answer = report.answer command ∧
      current = [⟨phase, command, .ok i⟩] ∧ started = report.start phase := by
  cases h with
  | detaching head' ready' mine told =>
    cases head.symm.trans head'
    cases ready.symm.trans ready'
    exact ⟨_, _, mine, told, rfl, rfl, rfl⟩
  | idle idle =>
    obtain ⟨_, idle⟩ := idle
    cases ready.symm.trans idle
  | spawning _ ready' | waiting _ ready' | finished _ ready' => cases ready.symm.trans ready'

theorem Current.of_finished (h : Current s current started)
    (head : s.supervisor.script = .run phase command rest) {answer : Except Failure ExitStatus}
    {receivers : Receivers} (ready : s.supervisor.runner = .finished answer receivers) :
    ∃ origin report, Told s origin report ∧ answer = report.answer command ∧
      current = [⟨phase, command, origin⟩] ∧ started = report.start phase := by
  cases h with
  | finished head' ready' told =>
    cases head.symm.trans head'
    cases ready.symm.trans ready'
    exact ⟨_, _, told, rfl, rfl, rfl⟩
  | idle idle =>
    obtain ⟨_, idle⟩ := idle
    cases ready.symm.trans idle
  | spawning _ ready' | waiting _ ready' | detaching _ ready' => cases ready.symm.trans ready'

theorem Current.runner (h : Current s current started) (backed : Backed s m)
    (step : Step s (.own (.runner x)) s') {r' : Runner} {t' : Table}
    (head : s.supervisor.script = .run phase command rest)
    (moves : Runner.Moves Supervisor.mainTask s.supervisor.table s.supervisor.runner x r' t')
    (goesOn : (∀ command, x ≠ .begin command) ∧ x ≠ .return)
    {forked : Option ChildId} {k : Children} (serves : s.Serves (.runner x) forked k)
    (head' : s'.supervisor.script = .run phase command rest)
    (runner : s'.supervisor.runner = r') (child : s'.child = forked) :
    Current s' (current ++ s.decided (.runner x))
      (started ++ Supervisor.runnerLines phase s.supervisor.runner x) := by
  generalize ready : s.supervisor.runner = r at moves ⊢
  cases moves with
  | begin => exact absurd rfl (goesOn.1 _)
  | rest => exact absurd rfl goesOn.2
  | spawn moves =>
    obtain ⟨rfl, rfl, rfl⟩ := h.of_spawning head ready
    cases serves with
    | runner other => exact absurd rfl (other _)
    | spawn starts =>
      have decisions := decisions_step moves starts
      rw [← child] at decisions
      have current := Current.spawning head' runner
      simpa [decisions, decided, head, Supervisor.runnerLines] using current
  | launch =>
    obtain ⟨rfl, rfl, rfl⟩ := h.of_spawning head ready
    cases serves
    obtain ⟨i, _, mine, _⟩ := backed.child_of_started ready
    have current := Current.waiting head' runner (child.trans mine)
    simpa [decisions, mine, decided, Supervisor.runnerLines, Runner.launched?] using current
  | @fail _ cause receivers =>
    obtain ⟨rfl, rfl, rfl⟩ := h.of_spawning head ready
    cases serves
    have told : Told s' (.error cause) (.refused cause) := .refused
    have ready : s'.supervisor.runner = .finished ((Report.refused cause).answer _) receivers :=
      runner
    exact .finished head' ready told
  | receive answers =>
    obtain ⟨i, mine, rfl, rfl⟩ := h.of_waiting head ready
    cases serves
    obtain ⟨j, c, e, mine', known, own, _, life, answered⟩ :=
      backed.answered (by rw [ready]; rfl) answers
    cases mine.symm.trans mine'
    have told := Told.ended known own life (e.ofRaw?_raw c.pid)
    exact .detaching head' (runner.trans (by rw [answered]; rfl)) (child.trans mine)
      (told.step step)
  | relay =>
    obtain ⟨i, mine, rfl, rfl⟩ := h.of_waiting head ready
    cases serves
    exact .waiting head' runner (child.trans mine)
  | wind =>
    obtain ⟨i, report, mine, told, rfl, rfl, rfl⟩ := h.of_detaching head ready
    cases serves
    have current := Current.detaching head' runner (child.trans mine) (told.step step)
    simpa [decided, Supervisor.runnerLines] using current
  | detach =>
    obtain ⟨i, report, mine, told, rfl, rfl, rfl⟩ := h.of_detaching head ready
    cases serves
    have current := Current.finished head' runner (told.step step)
    simpa [decided, Supervisor.runnerLines] using current

end

theorem filter_reaperLines (e : Reaper.Event) :
    (Supervisor.reaperLines e).filter (!·.isReapers) = [] := by
  unfold Supervisor.reaperLines
  split <;> rfl

theorem filter_runnerLines (phase : Phase) (r : Runner) (x : Runner.Event) :
    (Supervisor.runnerLines phase r x).filter (!·.isReapers) =
      Supervisor.runnerLines phase r x := by
  unfold Supervisor.runnerLines
  split
  · split <;> rfl
  · rfl

theorem Follows.of_idle (h : Follows full s) (step : Step s e s')
    (idle : s.supervisor.runner.IsIdle)
    (idle' : s'.supervisor.runner.IsIdle)
    (same : ∀ report, s'.supervisor.script.eval report = s.supervisor.script.eval report)
    (log : s'.supervisor.log = s.supervisor.log) (attempts : s'.attempts = s.attempts) :
    Follows full s' := by
  obtain ⟨past, lines, current, started, history, running, before, logged⟩ := h
  obtain ⟨rfl, rfl⟩ := running.of_idle idle
  refine ⟨past, lines, [], [], history.step step same, .idle idle', attempts.trans before, ?_⟩
  rwa [Supervision.lines, log]

theorem Follows.step (h : Follows full s) (own : full.Logs)
    (once : ∀ report, ((full.eval report).attempts.map Prod.fst).Nodup) (backed : Backed s m)
    (staged : s.supervisor.Staged) (step : Step s e s') : Follows full s' := by
  have follows := h
  obtain ⟨past, lines, current, started, history, running, attempts, log⟩ := h
  have stay := step
  -- Kernel, reaper and signals leave the command in progress alone. Only the script and the runner
  -- go on with the reading.
  cases step with
  | kernel | crowd =>
    exact ⟨past, lines, current, started, history.step stay fun _ => rfl,
      running.step stay rfl rfl (.inl rfl), attempts, log⟩
  | own step serves =>
    cases Supervisor.Moves.of_step step with
    | signal =>
      cases serves
      exact ⟨past, lines, current, started, history.step stay fun _ => rfl,
        running.step stay rfl rfl (.inr ⟨_, rfl⟩), by simpa [decided] using attempts, log⟩
    | reaper =>
      refine ⟨past, lines, current, started, history.step stay fun _ => rfl,
        running.step stay rfl ?_ (.inl rfl), ?_, ?_⟩
      · cases serves <;> rfl
      · simpa [decided] using attempts
      · rwa [Supervision.lines, List.filter_append, filter_reaperLines, List.append_nil]
    | runner head goesOn moves =>
      refine ⟨past, lines, _, _, history.step stay fun _ => rfl,
        running.runner backed stay head moves goesOn serves head rfl rfl, ?_, ?_⟩
      · simp [attempts]
      · rw [Supervision.lines] at log
        rw [Supervision.lines, List.filter_append, filter_runnerLines, log, List.append_assoc]
    | finish head finished =>
      obtain ⟨origin, report, told, rfl, rfl, rfl⟩ := running.of_finished head finished
      cases serves
      refine ⟨_, _, [], [], history.finish stay once head rfl told, .idle ⟨_, rfl⟩, ?_, ?_⟩
      · simpa [decided] using attempts
      · rw [List.append_nil]
        exact log
    | begin head idle =>
      obtain ⟨rfl, rfl⟩ := running.of_idle ⟨_, idle⟩
      cases serves
      refine ⟨past, lines, _, _, history.step stay fun _ => rfl, .spawning head rfl, ?_, log⟩
      simpa [decided, decisions] using attempts
    | @log line rest head =>
      have idle := staged.idle (by simp [head])
      obtain ⟨rfl, rfl⟩ := running.of_idle idle
      cases serves
      refine ⟨past, lines ++ [line], [], [], history.log stay head rfl, .idle idle, ?_, ?_⟩
      · simpa [decided] using attempts
      · rw [Supervision.lines, List.append_nil] at log ⊢
        simp [log, history.own_line own head]
    | adoptOrphans head | startReaper head | stopped head =>
      have idle := staged.idle (by simp [head])
      cases serves
      exact follows.of_idle stay idle idle (fun _ => by rw [head]; rfl) rfl (by simp [decided])
    | receiveSignals head =>
      have idle := staged.idle (by simp [head])
      cases serves
      exact follows.of_idle stay idle idle.register (fun _ => by rw [head]; rfl) rfl
        (by simp [decided])
    | requestStop head =>
      have idle := staged.idle (by simp [head])
      cases serves
      exact follows.of_idle stay idle idle (fun _ => rfl) rfl (by simp [decided])

theorem follows_of_run {config : Config} {version : String} {self group : Pid} {es : List Event}
    (run : Run Step (start config version self group) es s) :
    Follows (.ofConfig config version self) s := by
  have start : Follows (.ofConfig config version self) (start config version self group) :=
    ⟨[], [], [], [], ⟨nofun, ⟨fun _ _ => .refused (.other ""), nofun⟩, fun _ _ => rfl⟩,
      .idle ⟨_, rfl⟩, rfl, rfl⟩
  refine keeps_of_run (fun staged backed follows step => ?_) run start
  exact follows.step (Script.logs_ofConfig _ _ _)
    (fun report => Script.nodup_attempts report config version self) backed staged step

end PidOne.Supervision
