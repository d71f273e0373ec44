import PidOne.Proofs.Reading
import PidOne.Proofs.Recall

/-!
# The layout of a log

Each phase that is reached adds its own lines to the log, one phase after the other, and the result
can be read off these lines.
-/

namespace PidOne.Script

variable (report : Phase → Command → Report) (config : Config)

/-- What a phase adds to the log when it is reached. -/
def contribution (p : Phase) : Option Command → List Line
  | none => [.skipped p]
  | some c => (report p c).lines p c

def outcome (p : Phase) (c : Option Command) : Option Outcome := c.map fun c => (report p c).outcome

variable {report} in
@[simp] theorem contribution_some (p : Phase) (c : Command) :
    contribution report p (some c) = (report p c).lines p c := rfl

variable {report} in
@[simp] theorem outcome_some (p : Phase) (c : Command) :
    outcome report p (some c) = some (report p c).outcome := rfl

/-- Whether there is no pre-start that has failed. -/
def goesOn : Bool := !(outcome report .preStart config.preStart).any (!·.success)

/-- The phases that are reached, each with its command if it is defined. -/
def reached : List (Phase × Option Command) :=
  (.preStart, config.preStart) ::
    if goesOn report config then [(.main, some config.main), (.postStop, config.postStop)] else []

def verdicts : List (Phase × Outcome) :=
  (reached report config).filterMap fun x => (outcome report x.1 x.2).map (x.1, ·)

def resultOf : Result :=
  if goesOn report config then
    { preStart := outcome report .preStart config.preStart
      main := outcome report .main (some config.main)
      postStop := outcome report .postStop config.postStop }
  else { preStart := outcome report .preStart config.preStart }

theorem eval_optional (p : Phase) (c : Option Command) (rest : Option Outcome → Script) :
    (optional p c rest).eval report = ((rest (outcome report p c)).eval report).after
      (c.toList.map (p, ·)) (contribution report p c) := by
  cases c with
  | none => rfl
  | some c =>
    rw [optional, eval_phase]
    rfl

theorem eval_phases (rest : Result → Script) :
    (phases config rest).eval report = ((rest (resultOf report config)).eval report).after
      ((reached report config).flatMap fun x => x.2.toList.map (x.1, ·))
      ((reached report config).flatMap fun x => contribution report x.1 x.2) := by
  rw [phases, eval_optional]
  cases failed : (outcome report .preStart config.preStart).any (!·.success) with
  | true =>
    have stays : goesOn report config = false := by rw [goesOn, failed, Bool.not_true]
    simp [reached, resultOf, stays]
  | false =>
    have goes : goesOn report config = true := by rw [goesOn, failed, Bool.not_false]
    simp only [Bool.false_eq_true, if_false]
    rw [eval_phase, eval_optional]
    simp [reached, resultOf, goes]

/-- All that is logged: the phases that are reached stand one after the other, with one line before
them and two after them. -/
def layout (version : String) : List Line :=
  .starting version :: ((reached report config).flatMap (fun x => contribution report x.1 x.2) ++
    [.reaperStopped, .exiting (resultOf report config).exitCode])

theorem eval_ofConfig_eq (version : String) (self : Pid) :
    (ofConfig config version self).eval report =
      ⟨(reached report config).flatMap fun x => x.2.toList.map (x.1, ·),
        layout report config version, resultOf report config⟩ := by
  rw [eval_ofConfig, eval_phases]
  simp [Reading.after, eval, layout]

theorem verdict?_verdict (p : Phase) (c : Command) (r : Report) :
    (r.verdict p c).verdict? = some (p, r.outcome) := by
  cases r with
  | refused | lost => rfl
  | ended status =>
    rw [Report.verdict, Report.outcome]
    split
    · rename_i success
      have code : status.code = some 0 := by simpa [ExitStatus.success] using success
      simp [Line.verdict?, ExitStatus.outcome, ExitStatus.exitedNormally, ExitStatus.success, code]
    · rename_i failure
      simp [Line.verdict?, Failure.isExitOf, ExitStatus.outcome, failure]

/-- What the lines of a phase say. -/
theorem filterMap_contribution (p : Phase) (c : Option Command) :
    (contribution report p c).filterMap Line.verdict? =
      ((outcome report p c).map (p, ·)).toList := by
  cases c with
  | none => rfl
  | some c =>
    have start : ((report p c).start p).filterMap Line.verdict? = [] := by
      rw [Report.start]
      split <;> rfl
    rw [contribution_some, Report.lines, List.filterMap_cons_none rfl, List.filterMap_append, start,
      List.filterMap_cons_some (verdict?_verdict p c (report p c))]
    rfl

theorem filterMap_layout (version : String) :
    (layout report config version).filterMap Line.verdict? = verdicts report config := by
  rw [layout, List.filterMap_cons_none rfl, List.filterMap_append, List.filterMap_flatMap]
  simp only [filterMap_contribution]
  symm
  rw [verdicts, List.filterMap_eq_flatMap_toList]
  exact (List.append_nil _).symm

theorem outcome?_resultOf (p : Phase) :
    (resultOf report config).outcome? p = (verdicts report config).lookup p := by
  cases pre : outcome report .preStart config.preStart <;>
    cases post : outcome report .postStop config.postStop <;>
    cases goes : goesOn report config <;> cases p <;>
    simp [resultOf, verdicts, reached, goes, pre, post, Result.outcome?, List.lookup_cons] <;>
      rfl

/-- The outcomes that the text of a log tells. -/
def recalled (log : List String) (p : Phase) : Option Outcome :=
  (log.filterMap fun line => recallLine line.toList).lookup p

theorem recalled_layout (version : String) (p : Phase) :
    recalled ((layout report config version).map Line.render) p =
      (resultOf report config).outcome? p := by
  have verdicts : (fun line => recallLine line.toList) ∘ Line.render = Line.verdict? :=
    funext recall_render
  rw [recalled, List.filterMap_map, verdicts, filterMap_layout, outcome?_resultOf]

theorem level_verdict (p : Phase) (c : Command) (r : Report) :
    (r.verdict p c).level = .error ↔ r.outcome.success = false := by
  cases r with
  | refused | lost => exact ⟨fun _ => rfl, fun _ => rfl⟩
  | ended status =>
    rw [Report.verdict, Report.outcome, ExitStatus.outcome]
    cases status.success <;> simp [Line.level]

theorem error_mem_contribution (p : Phase) (c : Option Command) :
    (∃ line ∈ contribution report p c, line.level = .error) ↔
      (outcome report p c).any (!·.success) = true := by
  cases c with
  | none => simp [contribution, outcome, Line.level]
  | some c =>
    have start : ¬∃ line ∈ (report p c).start p, line.level = .error := by
      rw [Report.start]
      split <;> simp [Line.level]
    have launched : (Line.launched p c).level = .info := rfl
    simp [Report.lines, or_and_right, exists_or, start, level_verdict, launched]

/-- The exit code tells whether a phase that is reached has failed. -/
theorem exitCode_resultOf : (resultOf report config).exitCode = 1 ↔
    ∃ x ∈ reached report config, (outcome report x.1 x.2).any (!·.success) = true := by
  cases goes : goesOn report config with
  | true =>
    have pre : (outcome report .preStart config.preStart).any (!·.success) = false := by
      simpa [goesOn] using goes
    cases post : (outcome report .postStop config.postStop).any (!·.success) <;>
      simp [resultOf, reached, goes, Result.exitCode, pre, post]
  | false =>
    have pre : (outcome report .preStart config.preStart).any (!·.success) = true := by
      simpa only [goesOn, Bool.not_eq_false'] using goes
    simp [resultOf, reached, goes, Result.exitCode, pre]

theorem error_mem_layout (version : String) :
    (∃ line ∈ layout report config version, line.level = .error) ↔
      (resultOf report config).exitCode = 1 := by
  rw [exitCode_resultOf]
  simp only [← error_mem_contribution, layout, List.mem_cons, List.mem_append, List.mem_flatMap]
  constructor
  · rintro ⟨line, rfl | ⟨x, hx, hline⟩ | rfl | rfl | h, error⟩
    · cases error
    · exact ⟨x, hx, line, hline, error⟩
    · cases error
    · cases error
    · cases h
  · rintro ⟨x, hx, line, hline, error⟩
    exact ⟨line, .inr (.inl ⟨x, hx, hline⟩), error⟩

/-- How a log with its result follows from what is reported of the commands. -/
structure Recorded (version : String) (log : List Line) (result : Result) : Prop where
  order : ((reached report config).map Prod.fst) <+: [.preStart, .main, .postStop]
  /-- Nothing else is logged than what the phases that are reached contribute. -/
  layout : log = .starting version ::
    ((reached report config).flatMap (fun x => contribution report x.1 x.2) ++
      [.reaperStopped, .exiting result.exitCode])
  skipped : ∀ p, (p, none) ∈ reached report config →
    contribution report p none = [.skipped p] ∧ result.outcome? p = none
  /-- A command is spawned or not, and then the phase is closed according to its outcome. -/
  attempted : ∀ p c, (p, some c) ∈ reached report config →
    result.outcome? p = some (report p c).outcome ∧
    ∃ closing, contribution report p (some c) =
      .launched p c :: ((if (report p c).spawned then [.spawned p] else []) ++ [closing]) ∧
      ((report p c).outcome.success = true ∧ closing = .exited p ∨
        (report p c).outcome.success = false ∧ ∃ failure, closing = .failed p failure)
  exitCode : result.exitCode = 1 ↔ ∃ line ∈ log, line.level = .error
  /-- The texts of the lines tell the outcomes. -/
  text : ∀ p, recalled (log.map Line.render) p = result.outcome? p

theorem order_reached :
    ((reached report config).map Prod.fst) <+: [.preStart, .main, .postStop] := by
  rw [reached]
  split
  · exact List.prefix_rfl
  · exact ⟨[.main, .postStop], rfl⟩

theorem outcome?_of_reached {p : Phase} {c : Option Command} (h : (p, c) ∈ reached report config) :
    (resultOf report config).outcome? p = outcome report p c := by
  cases goes : goesOn report config with
  | true =>
    rw [resultOf, goes]
    have h : p = .preStart ∧ c = config.preStart ∨ p = .main ∧ c = some config.main ∨
        p = .postStop ∧ c = config.postStop := by
      simpa [reached, goes] using h
    rcases h with ⟨rfl, rfl⟩ | ⟨rfl, rfl⟩ | ⟨rfl, rfl⟩ <;> rfl
  | false =>
    rw [resultOf, goes]
    have h : p = .preStart ∧ c = config.preStart := by
      simpa [reached, goes] using h
    obtain ⟨rfl, rfl⟩ := h
    rfl

theorem closing_verdict (p : Phase) (c : Command) (r : Report) :
    r.outcome.success = true ∧ r.verdict p c = .exited p ∨
      r.outcome.success = false ∧ ∃ failure, r.verdict p c = .failed p failure := by
  cases r with
  | refused | lost => exact .inr ⟨rfl, _, rfl⟩
  | ended status =>
    rw [Report.verdict, Report.outcome, ExitStatus.outcome]
    cases status.success with
    | true => exact .inl ⟨rfl, rfl⟩
    | false => exact .inr ⟨rfl, _, rfl⟩

theorem recorded_layout (version : String) :
    Recorded report config version (layout report config version) (resultOf report config) where
  order := order_reached report config
  layout := rfl
  skipped _ h := ⟨rfl, outcome?_of_reached report config h⟩
  attempted p c h :=
    ⟨outcome?_of_reached report config h, _, rfl, closing_verdict p c (report p c)⟩
  exitCode := (error_mem_layout report config version).symm
  text := recalled_layout report config version

end PidOne.Script
