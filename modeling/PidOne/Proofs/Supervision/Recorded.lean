import PidOne.Proofs.Layout
import PidOne.Proofs.Supervision.Sequential

/-!
# The log of a run

What a run has logged when it returns is laid out by phases, and agrees with its result.
-/

namespace PidOne

theorem Result.eq_of_outcome? {r r' : Result} (h : ∀ p, r'.outcome? p = r.outcome? p) : r' = r := by
  cases r with
  | mk preStart main postStop =>
    cases r' with
    | mk preStart' main' postStop' =>
      obtain rfl : preStart' = preStart := h .preStart
      obtain rfl : main' = main := h .main
      obtain rfl : postStop' = postStop := h .postStop
      rfl

namespace Supervision

open Kernel

open Script (Report)

variable {s s' : Supervision} {es : List Event}

theorem Told.spawned {origin : Except Cause ChildId} {r : Report} (h : Told s origin r) :
    r.spawned = true ↔ ∃ i, origin = .ok i := by
  cases h with
  | refused => simp [Report.spawned]
  | ended => simp [Report.spawned]

/-- What is logged of the attempts of a run, in the order in which they were made. -/
structure Recorded (s : Supervision) (config : Config) (version : String) (result : Result)
    (report : Phase → Command → Report) : Prop where
  told : ∀ a ∈ s.attempts, Told s a.origin (report a.phase a.command)
  spawned : ∀ a ∈ s.attempts,
    (report a.phase a.command).spawned = true ↔ ∃ i, a.origin = .ok i
  attempts : s.attempts.map (fun a => (a.phase, a.command)) =
    (Script.reached report config).flatMap fun x => x.2.toList.map (x.1, ·)
  recorded : Script.Recorded report config version s.supervisor.log result

theorem recorded_of_run {config : Config} {version : String} {self group : Pid} {result : Result}
    (run : Run Step (start config version self group) es s) (answers : ∀ e ∈ es, ¬e.Fails)
    (returned : s.supervisor.result? = some result) :
    ∃ report, s.Recorded config version result report := by
  obtain ⟨report, told, eval⟩ := (follows_of_run run).reads (backed_of_run run).1 returned
  rw [Script.eval_ofConfig_eq, silent_of_run run answers] at eval
  obtain ⟨attempts, log, rfl⟩ := Script.Reading.mk.inj eval
  refine ⟨report, told, fun a ha => (told a ha).spawned, attempts.symm, ?_⟩
  rw [← log]
  exact Script.recorded_layout report config version

theorem log_and_result_agree {config : Config} {version : String} {self group : Pid}
    {result : Result} (run : Run Step (start config version self group) es s)
    (answers : ∀ e ∈ es, ¬e.Fails) (returned : s.supervisor.result? = some result) :
    (∃ report, s.Recorded config version result report) ∧
    ∀ config' version' self' group' es' s' result',
      Run Step (start config' version' self' group') es' s' → (∀ e ∈ es', ¬e.Fails) →
      s'.supervisor.result? = some result' →
      s'.supervisor.log.map Line.render = s.supervisor.log.map Line.render → result' = result := by
  obtain ⟨report, recorded⟩ := recorded_of_run run answers returned
  refine ⟨⟨report, recorded⟩, ?_⟩
  intro config' version' self' group' es' s' result' run' answers' returned' same
  obtain ⟨report', recorded'⟩ := recorded_of_run run' answers' returned'
  apply Result.eq_of_outcome?
  intro p
  calc result'.outcome? p
    _ = Script.recalled (s'.supervisor.log.map Line.render) p := (recorded'.recorded.text p).symm
    _ = Script.recalled (s.supervisor.log.map Line.render) p := by rw [same]
    _ = result.outcome? p := recorded.recorded.text p

def unstartable : Config := ⟨some ⟨"missing", []⟩, ⟨"true", []⟩, none, 1000, true⟩

/-- The pre-start command cannot be started, so main is not reached. -/
def failing : List Event := [
  .own .advance, .own .advance, .own .advance, .own .advance, .own .advance,
  .own (.runner (.spawn .lock)), .own (.runner (.spawn (.fork (.error (.errno 2))))),
  .own (.runner (.spawn .unlock)), .own (.runner .launch), .own .advance, .own .advance,
  .own .advance, .own (.reaper (.pass .lock)), .own (.reaper (.pass (.wait .noChildren))),
  .own (.reaper (.pass .unlock)), .own (.reaper (.rest 0)), .own (.reaper (.wake .stop)),
  .own .advance, .own .advance, .own .advance]

theorem run_failing : ∃ s, Run Step (start unstartable "0.1.0" 1 1) failing s ∧
    s.supervisor.result? = some { preStart := some ⟨false, false⟩ } ∧
    s.supervisor.log = [.starting "0.1.0", .launched .preStart ⟨"missing", []⟩,
      .failed .preStart (.spawnFailed "missing" (.errno 2)), .reaperStopped, .exiting 1] := by
  iterate 5 refine Run.exists_cons (.own rfl .advance) ?_
  refine Run.exists_cons (.own rfl (.spawn .lock nofun)) ?_
  refine Run.exists_cons (.own rfl (.spawn .refuse nofun)) ?_
  refine Run.exists_cons (.own rfl (.spawn .unlock nofun)) ?_
  refine Run.exists_cons (.own rfl (.runner nofun)) ?_
  iterate 3 refine Run.exists_cons (.own rfl .advance) ?_
  refine Run.exists_cons (.own rfl (.pass .lock)) ?_
  refine Run.exists_cons (.own rfl (.pass (.wait (.noChildren nofun)))) ?_
  refine Run.exists_cons (.own rfl (.pass .unlock)) ?_
  iterate 2 refine Run.exists_cons (.own rfl (.reaper nofun)) ?_
  iterate 2 refine Run.exists_cons (.own rfl .advance) ?_
  exact ⟨_, .single (.own rfl .advance), rfl, rfl⟩

theorem log_and_result_agree_if_unstartable : ∃ s report,
    Run Step (start unstartable "0.1.0" 1 1) failing s ∧ (∀ e ∈ failing, ¬e.Fails) ∧
    s.supervisor.result? = some { preStart := some ⟨false, false⟩ } ∧
    s.Recorded unstartable "0.1.0" { preStart := some ⟨false, false⟩ } report ∧
    .exiting 1 ∈ s.supervisor.log := by
  obtain ⟨s, run, returned, log⟩ := run_failing
  have answers : ∀ e ∈ failing, ¬e.Fails := by simp [failing, Event.Fails]
  obtain ⟨⟨report, recorded⟩, _⟩ := log_and_result_agree run answers returned
  exact ⟨s, report, run, answers, returned, recorded, by simp [log]⟩

end Supervision

end PidOne
