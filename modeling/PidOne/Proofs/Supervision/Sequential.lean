import PidOne.Proofs.Supervision.Refinement

/-!
# The result of a run

A run that returns has the result, the commands and the log of a reading of its script in which
each command is run to its end before anything else happens. So neither orphans nor passes nor
signals have any influence on them.
-/

namespace PidOne.Supervision

open Kernel

open Script (Report)

variable {s s' : Supervision} {e : Event} {es : List Event}

/-- The run has come to this reading of its script, with the reports that the kernel has given. -/
def Reads (config : Config) (version : String) (self : Pid) (s : Supervision) (result : Result) :
    Prop :=
  ∃ report : Phase → Command → Report,
    (∀ a ∈ s.attempts, Told s a.origin (report a.phase a.command)) ∧
    (Script.ofConfig config version self).eval report =
      ⟨s.attempts.map fun a => (a.phase, a.command), s.lines, result⟩

theorem Follows.reads {config : Config} {version : String} {self : Pid} {result : Result}
    (h : Follows (.ofConfig config version self) s) (staged : s.supervisor.Staged)
    (returned : s.supervisor.result? = some result) : s.Reads config version self result := by
  obtain ⟨past, lines, current, started, history, running, attempts, log⟩ := h
  have done := Supervisor.script_of_result? returned
  obtain ⟨rfl, rfl⟩ := running.of_idle (staged.of_done done).2
  rw [List.append_nil] at attempts log
  obtain ⟨report, hr⟩ := history.consistent
  refine ⟨report, ?_, ?_⟩
  · intro a ha
    rw [attempts] at ha
    obtain ⟨p, hp, rfl⟩ := List.mem_map.1 ha
    rw [hr p hp]
    exact history.told p hp
  · rw [history.reads report hr, done, attempts, log]
    simp [Script.eval, Script.Reading.after]

/-- The kernel fails to answer the reaper. -/
def Event.Fails : Event → Prop
  | .own (.reaper (.pass (.wait (.failed _)))) => True
  | _ => False

theorem lines_eq_log_iff : s.lines = s.supervisor.log ↔
    ∀ line ∈ s.supervisor.log, line.isReapers = false := by
  simp [Supervision.lines, List.filter_eq_self]

/-- Unless the kernel fails to answer, the reaper has nothing to say. -/
theorem Follows.silent {full : Script} (h : Follows full s) (own : full.Logs) (step : Step s e s')
    (answers : ¬e.Fails) (silent : s.lines = s.supervisor.log) : s'.lines = s'.supervisor.log := by
  rw [lines_eq_log_iff] at silent ⊢
  have append (more : List Line) (own : ∀ line ∈ more, line.isReapers = false) :
      ∀ line ∈ s.supervisor.log ++ more, line.isReapers = false :=
    List.forall_mem_append.2 ⟨silent, own⟩
  cases step with
  | kernel | crowd => exact silent
  | own step =>
    cases Supervisor.Moves.of_step step with
    | log head =>
      obtain ⟨past, lines, current, started, history, _⟩ := h
      refine append _ fun line hline => ?_
      obtain rfl := List.mem_singleton.1 hline
      exact history.own_line own head
    | runner =>
      refine append _ ?_
      simpa [List.filter_eq_self] using filter_runnerLines _ _ _
    | @reaper _ x =>
      refine append _ ?_
      unfold Supervisor.reaperLines
      split
      · exact absurd trivial answers
      · exact nofun
    | _ => exact silent

theorem silent_of_run {config : Config} {version : String} {self group : Pid}
    (run : Run Step (start config version self group) es s) (answers : ∀ e ∈ es, ¬e.Fails) :
    s.lines = s.supervisor.log := by
  refine run.keeps_reachable (P := fun s => s.lines = s.supervisor.log) ?_ answers rfl
  intro _ _ _ _ reached answers silent step
  exact (follows_of_run reached).silent (Script.logs_ofConfig _ _ _) step answers silent

/-- What became of an attempt: the cause of its refusal or the raw status of its child. -/
def fate? (s : Supervision) : Except Cause ChildId → Option (Except Cause RawStatus)
  | .error cause => some (.error cause)
  | .ok i =>
    match (s.children i).map Child.life with
    | some (.collected e) => some (.ok e.raw)
    | _ => none

theorem ofRaw?_pid {raw : RawStatus} {p q : Pid} {status status' : ExitStatus}
    (h : ExitStatus.ofRaw? p raw = some status) (h' : ExitStatus.ofRaw? q raw = some status') :
    status' = { status with pid := q } := by
  unfold ExitStatus.ofRaw? at h h'
  grind

theorem Told.alike {o o' : Except Cause ChildId} {r r' : Report} (h : Told s o r)
    (h' : Told s' o' r') (same : s.fate? o = s'.fate? o') : r.Alike r' := by
  cases h with
  | refused =>
    cases h' with
    | refused =>
      cases same
      exact .refused
    | ended known _ life => simp [fate?, known, life] at same
  | ended known _ life decoded =>
    cases h' with
    | refused => simp [fate?, known, life] at same
    | ended known' _ life' decoded' =>
      simp only [fate?, known, known', life, life', Option.map_some, Option.some.injEq,
        Except.ok.injEq] at same
      rw [← same] at decoded'
      rw [ofRaw?_pid decoded decoded']
      exact .ended

/-- Both runs have had the same fate in each phase that both have attempted. -/
def SameFates (s s' : Supervision) : Prop :=
  ∀ a ∈ s.attempts, ∀ b ∈ s'.attempts, a.phase = b.phase →
    s.fate? a.origin = s'.fate? b.origin

theorem reads_sequentially {config : Config} {version : String} {self group : Pid}
    {es : List Event} {result : Result} (run : Run Step (start config version self group) es s)
    (returned : s.supervisor.result? = some result) :
    s.Reads config version self result ∧ ((∀ e ∈ es, ¬e.Fails) → s.lines = s.supervisor.log) ∧
    ∀ self' group' es' s' result', Run Step (start config version self' group') es' s' →
      s'.supervisor.result? = some result' → SameFates s s' →
        result' = result ∧ s'.lines.map Line.render = s.lines.map Line.render := by
  have reads := (follows_of_run run).reads (backed_of_run run).1 returned
  refine ⟨reads, silent_of_run run, fun self' group' es' s' result' run' returned' fates => ?_⟩
  have reads' := (follows_of_run run').reads (backed_of_run run').1 returned'
  obtain ⟨report, told, eval⟩ := reads
  obtain ⟨report', told', eval'⟩ := reads'
  -- Both have been told the same of each phase that both have come to, and no more is needed.
  have agree : Script.Agree report report' ((Script.ofConfig config version self).eval report)
      ((Script.ofConfig config version self').eval report') := by
    rw [eval, eval']
    intro p c hp hp'
    obtain ⟨a, ha, same⟩ := List.mem_map.1 hp
    obtain ⟨b, hb, same'⟩ := List.mem_map.1 hp'
    obtain ⟨rfl, rfl⟩ := Prod.mk.inj same
    obtain ⟨phase, command⟩ := Prod.mk.inj same'
    have alike := (told a ha).alike (told' b hb) (fates a ha b hb phase.symm)
    rwa [phase, command] at alike
  have same := Script.same_of_agree config version self self' agree
  rw [eval, eval'] at same
  exact ⟨same.result, same.lines⟩

def mainOnly : Config := ⟨none, ⟨"true", []⟩, none, 1000, true⟩

/-- The command ends, and nothing else happens. -/
def undisturbed : List Event := [
  .own .advance, .own .advance, .own .advance, .own .advance, .own .advance, .own .advance,
  .own (.runner (.spawn .lock)), .own (.runner (.spawn (.fork (.ok 7)))),
  .own (.runner (.spawn (.exec none))), .own (.runner (.spawn .register)),
  .own (.runner (.spawn .unlock)), .own (.runner .launch),
  .kernel (.exit 0 .success), .own (.reaper (.pass .lock)),
  .own (.reaper (.pass (.wait (.report 7 0)))), .own (.reaper (.pass (.wait .noChildren))),
  .own (.reaper (.pass .unlock)), .own (.runner .receive), .own (.runner (.relay .stop)),
  .own (.runner .detach), .own .advance, .own .advance, .own .advance, .own .advance,
  .own (.reaper (.rest 0)), .own (.reaper (.wake .stop)), .own .advance, .own .advance,
  .own .advance]

theorem run_undisturbed : ∃ s, Run Step (start mainOnly "0.1.0" 1 1) undisturbed s ∧
    s.supervisor.result? = some { main := some ⟨true, true⟩ } ∧
    s.attempts = [⟨.main, mainOnly.main, .ok 0⟩] ∧ s.fate? (.ok 0) = some (.ok 0) := by
  iterate 6 refine Run.exists_cons (.own rfl .advance) ?_
  refine Run.exists_cons (.own rfl (.spawn .lock nofun)) ?_
  refine Run.exists_cons (.own rfl (.spawn (.fork (i := 0) rfl nofun) ?_)) ?_
  · rintro _ ⟨⟩
    exact ⟨by decide, by decide, by decide, nofun⟩
  refine Run.exists_cons (.own rfl (.spawn .exec nofun)) ?_
  refine Run.exists_cons (.own rfl (.spawn .register nofun)) ?_
  refine Run.exists_cons (.own rfl (.spawn .unlock nofun)) ?_
  refine Run.exists_cons (.own rfl (.runner nofun)) ?_
  refine Run.exists_cons (.kernel (.exit rfl rfl)) ?_
  refine Run.exists_cons (.own rfl (.pass .lock)) ?_
  refine Run.exists_cons (.own rfl (.pass (.wait
    (.ended (i := 0) (c := ⟨7, true, .ended .success⟩) (e := .success) rfl rfl)))) ?_
  refine Run.exists_cons (.own rfl (.pass (.wait (.noChildren ?_)))) ?_
  · intro i c e known
    simp only [start, Children.set_apply] at known
    grind
  refine Run.exists_cons (.own rfl (.pass .unlock)) ?_
  refine Run.exists_cons (.own rfl (.runner nofun)) ?_
  refine Run.exists_cons (.own rfl (.runner nofun)) ?_
  refine Run.exists_cons (.own rfl (.runner nofun)) ?_
  iterate 4 refine Run.exists_cons (.own rfl .advance) ?_
  refine Run.exists_cons (.own rfl (.reaper nofun)) ?_
  refine Run.exists_cons (.own rfl (.reaper nofun)) ?_
  iterate 2 refine Run.exists_cons (.own rfl .advance) ?_
  exact ⟨_, .single (.own rfl .advance), rfl, rfl, rfl⟩

/-- An orphan has ended, a signal comes too late, somebody enters the command's group, and the
kernel fails once to answer the reaper. -/
def disturbed : List Event := [
  .own .advance, .own .advance, .own .advance, .own .advance,
  .kernel (.adopt 0 7 (some .success)), .own (.signal 17), .own (.signal 15),
  .own .advance, .own .advance, .own .advance,
  .own (.runner (.spawn .lock)), .own (.runner (.spawn (.fork (.ok 8)))),
  .own (.runner (.spawn (.exec none))), .own (.runner (.spawn .register)),
  .own (.runner (.spawn .unlock)), .own (.runner .launch), .crowd 1 true,
  .kernel (.exit 1 .success), .own (.runner (.relay (.send 15 .undeliverable))),
  .own (.runner (.relay .sleep)), .own (.reaper (.pass .lock)),
  .own (.reaper (.pass (.wait .interrupted))), .own (.reaper (.pass (.wait (.report 7 0)))),
  .own (.reaper (.pass (.wait (.report 8 0)))), .own (.reaper (.pass (.wait (.failed 22)))),
  .own (.reaper (.pass .unlock)), .own (.reaper (.rest 0)), .own (.reaper (.wake .childEnded)),
  .own (.reaper (.pass .lock)), .own (.reaper (.pass (.wait .noChildren))),
  .own (.reaper (.pass .unlock)), .own (.reaper (.rest 1)), .own (.runner .receive),
  .own (.runner (.relay .stop)), .own (.runner .detach), .own .advance, .own .advance,
  .own .advance, .own .advance, .own (.reaper (.wake .stop)), .own .advance, .own .advance,
  .own .advance]

theorem run_disturbed : ∃ s, Run Step (start mainOnly "0.1.0" 5 5) disturbed s ∧
    s.supervisor.result? = some { main := some ⟨true, true⟩ } ∧
    s.attempts = [⟨.main, mainOnly.main, .ok 1⟩] ∧ s.fate? (.ok 1) = some (.ok 0) := by
  iterate 4 refine Run.exists_cons (.own rfl .advance) ?_
  refine Run.exists_cons (.kernel (.adopt rfl nofun)) ?_
  iterate 2 refine Run.exists_cons (.own rfl .signal) ?_
  iterate 3 refine Run.exists_cons (.own rfl .advance) ?_
  refine Run.exists_cons (.own rfl (.spawn .lock nofun)) ?_
  refine Run.exists_cons (.own rfl (.spawn (.fork (i := 1) rfl ?_) ?_)) ?_
  · intro i c known hpid
    simp only [start, Children.set_apply] at known
    grind
  · rintro _ ⟨⟩
    refine ⟨by decide, by decide, by decide, ?_⟩
    intro i c known own
    simp only [start, Children.set_apply] at known
    grind
  refine Run.exists_cons (.own rfl (.spawn .exec nofun)) ?_
  refine Run.exists_cons (.own rfl (.spawn .register nofun)) ?_
  refine Run.exists_cons (.own rfl (.spawn .unlock nofun)) ?_
  refine Run.exists_cons (.own rfl (.runner nofun)) ?_
  refine Run.exists_cons (.crowd rfl (.inl rfl)) ?_
  refine Run.exists_cons (.kernel (.exit rfl rfl)) ?_
  iterate 2 refine Run.exists_cons (.own rfl (.runner nofun)) ?_
  refine Run.exists_cons (.own rfl (.pass .lock)) ?_
  refine Run.exists_cons (.own rfl (.pass (.wait .interrupted))) ?_
  refine Run.exists_cons (.own rfl (.pass (.wait
    (.ended (i := 0) (c := ⟨7, false, .ended .success⟩) (e := .success) rfl rfl)))) ?_
  refine Run.exists_cons (.own rfl (.pass (.wait
    (.ended (i := 1) (c := ⟨8, true, .ended .success⟩) (e := .success) rfl rfl)))) ?_
  refine Run.exists_cons (.own rfl (.pass (.wait .failed))) ?_
  refine Run.exists_cons (.own rfl (.pass .unlock)) ?_
  iterate 2 refine Run.exists_cons (.own rfl (.reaper nofun)) ?_
  refine Run.exists_cons (.own rfl (.pass .lock)) ?_
  refine Run.exists_cons (.own rfl (.pass (.wait (.noChildren ?_)))) ?_
  · intro i c e known
    simp only [start, Children.set_apply] at known
    grind
  refine Run.exists_cons (.own rfl (.pass .unlock)) ?_
  refine Run.exists_cons (.own rfl (.reaper nofun)) ?_
  iterate 3 refine Run.exists_cons (.own rfl (.runner nofun)) ?_
  iterate 4 refine Run.exists_cons (.own rfl .advance) ?_
  refine Run.exists_cons (.own rfl (.reaper nofun)) ?_
  iterate 2 refine Run.exists_cons (.own rfl .advance) ?_
  exact ⟨_, .single (.own rfl .advance), rfl, rfl, rfl⟩

theorem reads_sequentially_if_disturbed : ∃ s s' : Supervision,
    (Run Step (start mainOnly "0.1.0" 1 1) undisturbed s ∧
      s.supervisor.result? = some { main := some ⟨true, true⟩ }) ∧
    Run Step (start mainOnly "0.1.0" 5 5) disturbed s' ∧
    s.Reads mainOnly "0.1.0" 1 { main := some ⟨true, true⟩ } ∧
    s'.lines.map Line.render = s.lines.map Line.render := by
  obtain ⟨s, run, returned, attempts, fate⟩ := run_undisturbed
  obtain ⟨s', run', returned', attempts', fate'⟩ := run_disturbed
  have fates : s.SameFates s' := by
    intro a ha b hb _
    rw [attempts, List.mem_singleton] at ha
    rw [attempts', List.mem_singleton] at hb
    rw [ha, hb, fate, fate']
  obtain ⟨reads, _, alike⟩ := reads_sequentially run returned
  exact ⟨s, s', ⟨run, returned⟩, run', reads, (alike _ _ _ _ _ run' returned' fates).2⟩

end PidOne.Supervision
