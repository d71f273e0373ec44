import PidOne.Proofs.Phases

/-!
# Sequential readings

What a script comes to when each command is run to its end before anything else happens. Of what
is reported of a command the PID leaves no trace in it.
-/

namespace PidOne.Script

/-- A reading that begins with these commands and lines. -/
def Reading.after (attempts : List (Phase × Command)) (log : List Line) (r : Reading) : Reading :=
  { r with attempts := attempts ++ r.attempts, log := log ++ r.log }

@[simp] theorem Reading.attempts_after (attempts : List (Phase × Command)) (log : List Line)
    (r : Reading) : (r.after attempts log).attempts = attempts ++ r.attempts := rfl

@[simp] theorem Reading.log_after (attempts : List (Phase × Command)) (log : List Line)
    (r : Reading) : (r.after attempts log).log = log ++ r.log := rfl

@[simp] theorem Reading.result_after (attempts : List (Phase × Command)) (log : List Line)
    (r : Reading) : (r.after attempts log).result = r.result := rfl

@[simp] theorem Reading.after_nil (r : Reading) : r.after [] [] = r := rfl

@[simp] theorem Reading.after_after (r : Reading) (attempts attempts' : List (Phase × Command))
    (log log' : List Line) : (r.after attempts' log').after attempts log =
      r.after (attempts ++ attempts') (log ++ log') := by
  simp [Reading.after]

def Report.outcome : Report → Outcome
  | .ended status => status.outcome
  | .refused _ | .lost _ => .notStarted

/-- The line that closes a phase. -/
def Report.verdict (p : Phase) (c : Command) : Report → Line
  | .refused cause => .failed p (.spawnFailed c.program cause)
  | .ended status => if status.success then .exited p else .failed p (.commandFailed p status)
  | .lost pid => .failed p (.exitStatusLost pid)

def Report.start (p : Phase) (r : Report) : List Line := if r.spawned then [.spawned p] else []

def Report.lines (p : Phase) (c : Command) (r : Report) : List Line :=
  .launched p c :: (r.start p ++ [r.verdict p c])

variable (report : Phase → Command → Report)

@[simp] theorem eval_log (line : Line) (rest : Script) :
    (log line rest).eval report = (rest.eval report).after [] [line] := rfl

theorem eval_run (p : Phase) (c : Command) (rest : Except Failure ExitStatus → Script) :
    (run p c rest).eval report =
      ((rest ((report p c).answer c)).eval report).after [(p, c)] ((report p c).start p) := by
  rw [eval, Report.start]
  split <;> rfl

@[simp] theorem eval_phase (p : Phase) (c : Command) (rest : Outcome → Script) :
    (phase p c rest).eval report =
      ((rest (report p c).outcome).eval report).after [(p, c)] ((report p c).lines p c) := by
  rw [phase, eval_log, eval_run]
  cases answer : report p c with
  | ended status =>
    simp only [Report.answer, Report.lines, Report.verdict, Report.outcome]
    split <;> simp
  | refused | lost => simp [Report.answer, Report.lines, Report.verdict, Report.outcome]

/-- What comes before the phases and after them is one line before and two after. -/
theorem eval_ofConfig (config : Config) (version : String) (self : Pid) :
    (ofConfig config version self).eval report = ((phases config fun r => .stopReaper
      (.log .reaperStopped (.log (.exiting r.exitCode) (.done r)))).eval report).after []
        [.starting version] := by
  rw [ofConfig, eval_log]
  split <;> rfl

theorem eval_follow (s : Script) :
    s.follow (fun p c => (report p c).answer c) =
      ⟨(s.eval report).attempts, (s.eval report).result⟩ := by
  induction s with
  | done => rfl
  | log _ _ ih | adoptOrphans _ ih | receiveSignals _ ih | startReaper _ _ ih | stopReaper _ ih =>
    exact ih
  | run p c rest ih =>
    rw [follow, ih, eval_run]
    rfl

theorem nodup_attempts (config : Config) (version : String) (self : Pid) :
    (((ofConfig config version self).eval report).attempts.map Prod.fst).Nodup := by
  have distinct : (((ofConfig config version self).follow
      fun p c => (report p c).answer c).attempts.map Prod.fst).Nodup := nodup_follow ..
  rwa [eval_follow] at distinct

/-- All that is logged along a script is the script's own. -/
def Logs (s : Script) : Prop := ∀ report, ∀ line ∈ (s.eval report).log, line.isReapers = false

theorem Logs.log {line : Line} {rest : Script} (own : line.isReapers = false) (h : rest.Logs) :
    (Script.log line rest).Logs := by
  intro report l hl
  rw [eval_log, Reading.log_after, List.mem_append, List.mem_singleton] at hl
  rcases hl with rfl | hl
  · exact own
  · exact h report l hl

theorem Logs.phase {p : Phase} {c : Command} {rest : Outcome → Script}
    (h : ∀ outcome, (rest outcome).Logs) : (Script.phase p c rest).Logs := by
  intro report line hline
  rw [eval_phase, Reading.log_after, List.mem_append] at hline
  rcases hline with mine | hline
  · simp only [Report.lines, Report.start, Report.verdict] at mine
    grind [Line.isReapers]
  · exact h _ report line hline

theorem logs_ofConfig (config : Config) (version : String) (self : Pid) :
    (ofConfig config version self).Logs := by
  have phases : (phases config fun r => .stopReaper
      (.log .reaperStopped (.log (.exiting r.exitCode) (.done r)))).Logs := by
    refine phases_of (fun _ _ => .log) (fun _ _ _ => .phase) config fun result => ?_
    have closing : (Script.log .reaperStopped
        (.log (.exiting result.exitCode) (.done result))).Logs := .log rfl (.log rfl nofun)
    exact closing
  intro report line hline
  rw [eval_ofConfig, Reading.log_after, List.mem_append, List.mem_singleton] at hline
  rcases hline with rfl | hline
  · rfl
  · exact phases report line hline

/-- Reports of the same fate, which may be of children with different PIDs. -/
inductive Report.Alike : Report → Report → Prop
  | refused : Alike (.refused cause) (.refused cause)
  | ended : Alike (.ended status) (.ended { status with pid })

theorem Report.Alike.outcome {r r' : Report} (h : r.Alike r') : r'.outcome = r.outcome := by
  cases h <;> rfl

theorem Report.Alike.lines {r r' : Report} (h : r.Alike r') (p : Phase) (c : Command) :
    (r'.lines p c).map Line.render = (r.lines p c).map Line.render := by
  cases h with
  | refused => rfl
  | @ended status pid =>
    have verdict : (Report.verdict p c (.ended { status with pid })).render =
        (Report.verdict p c (.ended status)).render := by
      simp only [Report.verdict]
      change (if status.success then _ else _ : Line).render = _
      split <;> rfl
    simp [Report.lines, Report.start, Report.spawned, verdict]

/-- The same commands with the same result, and a log that shows the same lines. -/
structure Reading.Same (r r' : Reading) : Prop where
  attempts : r'.attempts = r.attempts
  result : r'.result = r.result
  lines : r'.log.map Line.render = r.log.map Line.render

theorem Reading.Same.after {r r' : Reading} (h : r.Same r') (attempts : List (Phase × Command))
    {log log' : List Line} (same : log'.map Line.render = log.map Line.render) :
    (r.after attempts log).Same (r'.after attempts log') :=
  ⟨by simp [h.attempts], h.result, by simp [h.lines, same]⟩

/-- What is reported of the commands that both have run is alike. -/
def Agree (report report' : Phase → Command → Report) (r r' : Reading) : Prop :=
  ∀ p c, (p, c) ∈ r.attempts → (p, c) ∈ r'.attempts → (report p c).Alike (report' p c)

/-- Fates that are alike make the same of a script. -/
def Determined (s : Script) : Prop := ∀ report report',
  Agree report report' (s.eval report) (s.eval report') → (s.eval report).Same (s.eval report')

theorem Determined.log {line : Line} {rest : Script} (h : rest.Determined) :
    (Script.log line rest).Determined := by
  intro report report' agree
  rw [eval_log, eval_log] at agree ⊢
  exact (h report report' agree).after [] rfl

theorem Determined.phase {p : Phase} {c : Command} {rest : Outcome → Script}
    (h : ∀ outcome, (rest outcome).Determined) : (Script.phase p c rest).Determined := by
  intro report report' agree
  rw [eval_phase, eval_phase] at agree ⊢
  have alike := agree p c (by simp) (by simp)
  rw [alike.outcome] at agree ⊢
  refine (h _ report report' fun q d hq hq' => ?_).after _ (alike.lines p c)
  exact agree q d (List.mem_append_right _ hq) (List.mem_append_right _ hq')

theorem same_of_agree {report report' : Phase → Command → Report} (config : Config)
    (version : String) (self self' : Pid)
    (agree : Agree report report' ((ofConfig config version self).eval report)
      ((ofConfig config version self').eval report')) :
    ((ofConfig config version self).eval report).Same
      ((ofConfig config version self').eval report') := by
  have phases : (phases config fun r => .stopReaper
      (.log .reaperStopped (.log (.exiting r.exitCode) (.done r)))).Determined := by
    refine phases_of (fun _ _ _ => .log) (fun _ _ _ => .phase) config fun result => ?_
    have closing : (Script.log .reaperStopped
        (.log (.exiting result.exitCode) (.done result))).Determined :=
      .log (.log fun _ _ _ => ⟨rfl, rfl, rfl⟩)
    exact closing
  rw [eval_ofConfig, eval_ofConfig] at agree ⊢
  exact (phases report report' agree).after [] rfl

end PidOne.Script
