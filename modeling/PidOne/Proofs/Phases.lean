import PidOne.Supervisor.Script

/-!
# The sequence of phases

Which commands three lines come to, whatever the runner answers to each of them, and what the
answers make of the result.
-/

namespace PidOne

theorem Text.prepend_ne_nil (c : Char) (rest : List Char) (words : List (List Char)) :
    Text.prepend c rest words ≠ [] := by
  unfold Text.prepend
  split
  · split <;> exact nofun
  · exact nofun

theorem Text.words_eq_nil_iff {cs : List Char} :
    Text.words cs = [] ↔ ∀ c ∈ cs, Text.isBlank c = true := by
  induction cs with
  | nil => simp [Text.words]
  | cons c rest ih =>
    rw [Text.words, List.forall_mem_cons]
    split
    · simp [*]
    · simp [Text.prepend_ne_nil, *]

/-- Nothing but blank characters. -/
def Blank (line : String) : Prop := ∀ c ∈ line.toList, Text.isBlank c = true

theorem Command.ofLine?_eq_none_iff {line : String} : Command.ofLine? line = none ↔ Blank line := by
  rw [Blank, ← Text.words_eq_nil_iff, Command.ofLine?]
  cases Text.words line.toList <;> simp [Command.ofWords?]

def Result.outcome? (r : Result) : Phase → Option Outcome
  | .preStart => r.preStart
  | .main => r.main
  | .postStop => r.postStop

namespace Script

/-- The commands that a script hands to the runner, one after the other, and its result. -/
structure Course where
  attempts : List (Phase × Command) := []
  result : Result

def Course.after (phase : Phase) (command : Command) (course : Course) : Course :=
  { course with attempts := (phase, command) :: course.attempts }

variable (answers : Phase → Command → Except Failure ExitStatus)

def follow : Script → Course
  | .done result => { result }
  | .log _ rest => rest.follow
  | .adoptOrphans rest => rest.follow
  | .receiveSignals rest => rest.follow
  | .startReaper _ rest => rest.follow
  | .stopReaper rest => rest.follow
  | .run phase command rest => ((rest (answers phase command)).follow).after phase command

/-- The verdict on a phase, from what the runner answers. -/
def verdict : Except Failure ExitStatus → Outcome
  | .ok status => ⟨status.code.isSome, status.code == some 0⟩
  | .error _ => ⟨false, false⟩

def Succeeds (answer : Except Failure ExitStatus) : Prop :=
  ∃ status, answer = .ok status ∧ status.code = some 0

theorem verdict_success {answer : Except Failure ExitStatus} :
    (verdict answer).success = true ↔ Succeeds answer := by
  cases answer <;> simp [verdict, Succeeds]

@[simp] theorem follow_phase (p : Phase) (c : Command) (rest : Outcome → Script) :
    (phase p c rest).follow answers =
      ((rest (verdict (answers p c))).follow answers).after p c := by
  simp only [phase, follow]
  cases answers p c with
  | error failure => rfl
  | ok status =>
    simp only []
    split <;> rfl

@[simp] theorem follow_optional_none (p : Phase) (rest : Option Outcome → Script) :
    (optional p none rest).follow answers = (rest none).follow answers := rfl

@[simp] theorem follow_optional_some (p : Phase) (c : Command) (rest : Option Outcome → Script) :
    (optional p (some c) rest).follow answers =
      ((rest (some (verdict (answers p c)))).follow answers).after p c := by
  rw [optional, follow_phase]

/-- What comes before the phases and after them hands out no command. -/
theorem follow_ofConfig (config : Config) (version : String) (self : Pid) :
    (ofConfig config version self).follow answers = (phases config fun r => .stopReaper
      (.log .reaperStopped (.log (.exiting r.exitCode) (.done r)))).follow answers := by
  rw [ofConfig, follow]
  split <;> rfl

def Course.Attempted (course : Course) (phase : Phase) : Prop :=
  ∃ command, (phase, command) ∈ course.attempts

/-- How the phases follow from the three lines and from what the runner answers. -/
structure Sequenced (lines : Phase → String) (course : Course) : Prop where
  /-- In this order, and each once at most. -/
  order : (course.attempts.map Prod.fst).Sublist [.preStart, .main, .postStop]
  tokenized : ∀ phase command, (phase, command) ∈ course.attempts →
    Command.ofLine? (lines phase) = some command
  preStart : course.Attempted .preStart ↔ ¬Blank (lines .preStart)
  main : course.Attempted .main ↔ Blank (lines .preStart) ∨
    ∃ command, (.preStart, command) ∈ course.attempts ∧ Succeeds (answers .preStart command)
  postStop : course.Attempted .postStop ↔ course.Attempted .main ∧ ¬Blank (lines .postStop)
  outcomes : ∀ phase command, (phase, command) ∈ course.attempts →
    course.result.outcome? phase = some (verdict (answers phase command))
  missing : ∀ phase, ¬course.Attempted phase → course.result.outcome? phase = none
  exitCode : course.result.exitCode = 0 ↔
    ∀ phase command, Command.ofLine? (lines phase) = some command →
      (phase, command) ∈ course.attempts ∧ Succeeds (answers phase command)
  otherwise : course.result.exitCode = 0 ∨ course.result.exitCode = 1

/-- The command of a phase, if the phase is reached: after a failed pre-start none is. -/
def reached? (config : Config) : Phase → Option Command
  | .preStart => config.preStart
  | .main => if goesOn then some config.main else none
  | .postStop => if goesOn then config.postStop else none
where
  goesOn : Bool := config.preStart.all fun command => (verdict (answers .preStart command)).success

/-- The course in which just these commands are run. -/
def Course.of (commands : Phase → Option Command) : Course where
  attempts := [.preStart, .main, .postStop].filterMap fun phase => (commands phase).map (phase, ·)
  result := ⟨outcome? .preStart, outcome? .main, outcome? .postStop⟩
where
  outcome? (phase : Phase) : Option Outcome :=
    (commands phase).map fun command => verdict (answers phase command)

theorem follow_eq (config : Config) (version : String) (self : Pid) :
    (ofConfig config version self).follow answers = .of answers (reached? answers config) := by
  rw [follow_ofConfig, phases]
  cases pre : config.preStart with
  | none =>
    cases post : config.postStop <;>
      simp [follow, Course.after, Course.of, Course.of.outcome?, reached?, reached?.goesOn, *]
  | some start =>
    cases go : (verdict (answers .preStart start)).success
    · simp [follow, Course.after, Course.of, Course.of.outcome?, reached?, reached?.goesOn, *]
    · cases post : config.postStop <;>
        simp [follow, Course.after, Course.of, Course.of.outcome?, reached?, reached?.goesOn, *]

variable {answers} {commands : Phase → Option Command} {phase : Phase} {command : Command}

@[simp] theorem Course.mem_attempts_of :
    (phase, command) ∈ (Course.of answers commands).attempts ↔ commands phase = some command := by
  cases phase <;> simp [Course.of, List.mem_filterMap]

theorem Course.order_of :
    ((Course.of answers commands).attempts.map Prod.fst).Sublist [.preStart, .main, .postStop] := by
  have same phase : (Option.map (phase, ·) (commands phase)).map Prod.fst =
      Option.guard (fun phase => (commands phase).isSome) phase := by
    cases h : commands phase <;> simp [Option.guard, h]
  simp only [Course.of, List.map_filterMap, same, List.filterMap_eq_filter]
  exact List.filter_sublist

/-- Each phase is reached once at most. -/
theorem nodup_follow (config : Config) (version : String) (self : Pid) :
    (((ofConfig config version self).follow answers).attempts.map Prod.fst).Nodup := by
  rw [follow_eq]
  exact Course.order_of.nodup (by decide)

@[simp] theorem Course.outcome?_of : (Course.of answers commands).result.outcome? phase =
    (commands phase).map fun command => verdict (answers phase command) := by
  cases phase <;> rfl

theorem Course.attempted_of :
    (Course.of answers commands).Attempted phase ↔ ∃ command, commands phase = some command := by
  simp [Course.Attempted]

end Script

theorem Result.exitCode_eq_zero_iff {r : Result} : r.exitCode = 0 ↔
    (∀ o, r.outcome? .preStart = some o → o.success = true) ∧
    (∃ o, r.outcome? .main = some o ∧ o.success = true) ∧
    ∀ o, r.outcome? .postStop = some o → o.success = true := by
  obtain ⟨preStart, main, postStop⟩ := r
  cases preStart <;> cases main <;> cases postStop <;>
    simp only [Result.exitCode, Result.outcome?] <;> grind

theorem Result.exitCode_eq_zero_or_one (r : Result) : r.exitCode = 0 ∨ r.exitCode = 1 := by
  unfold Result.exitCode
  split
  · exact .inr rfl
  · split
    · exact .inl rfl
    · exact .inr rfl

namespace Script

variable {answers : Phase → Command → Except Failure ExitStatus} {lines : Phase → String}
variable {config : Config}

theorem goesOn_iff : reached?.goesOn answers config = true ↔
    ∀ command, config.preStart = some command → Succeeds (answers .preStart command) := by
  simp [reached?.goesOn, Option.all_eq_true, verdict_success]

theorem reached?_preStart {command : Command} :
    reached? answers config .preStart = some command ↔ config.preStart = some command := .rfl

theorem reached?_main {command : Command} : reached? answers config .main = some command ↔
    reached?.goesOn answers config = true ∧ config.main = command := by
  simp [reached?]

theorem reached?_postStop {command : Command} : reached? answers config .postStop = some command ↔
    reached?.goesOn answers config = true ∧ config.postStop = some command := by
  simp [reached?]

/-- A phase that is defined and passed over, or has failed, forces 1. -/
theorem exitCode_of_eq_zero_iff (preStart : config.preStart = Command.ofLine? (lines .preStart))
    (main : Command.ofLine? (lines .main) = some config.main)
    (postStop : config.postStop = Command.ofLine? (lines .postStop)) :
    (Course.of answers (reached? answers config)).result.exitCode = 0 ↔
      ∀ phase command, Command.ofLine? (lines phase) = some command →
        reached? answers config phase = some command ∧ Succeeds (answers phase command) := by
  rw [Result.exitCode_eq_zero_iff]
  simp only [Course.outcome?_of, Option.map_eq_some_iff]
  constructor
  · rintro ⟨pre, ⟨_, ⟨command, reached, rfl⟩, success⟩, post⟩ phase defined hdefined
    obtain ⟨goesOn, rfl⟩ := reached?_main.1 reached
    have reached' : reached? answers config phase = some defined := by
      cases phase with
      | preStart => exact preStart.trans hdefined
      | main => rw [reached, ← main, hdefined]
      | postStop => exact reached?_postStop.2 ⟨goesOn, postStop.trans hdefined⟩
    refine ⟨reached', verdict_success.1 ?_⟩
    cases phase with
    | preStart => exact pre _ ⟨defined, reached', rfl⟩
    | main =>
      obtain rfl := Option.some.inj (reached.symm.trans reached')
      exact success
    | postStop => exact post _ ⟨defined, reached', rfl⟩
  · intro all
    refine ⟨?_, ?_, ?_⟩
    · rintro _ ⟨command, reached, rfl⟩
      exact verdict_success.2 (all .preStart command (preStart.symm.trans reached)).2
    · obtain ⟨reached, succeeds⟩ := all .main config.main main
      exact ⟨_, ⟨_, reached, rfl⟩, verdict_success.2 succeeds⟩
    · rintro _ ⟨command, reached, rfl⟩
      have defined := postStop.symm.trans (reached?_postStop.1 reached).2
      exact verdict_success.2 (all .postStop command defined).2

theorem Sequenced.of_config (preStart : config.preStart = Command.ofLine? (lines .preStart))
    (main : Command.ofLine? (lines .main) = some config.main)
    (postStop : config.postStop = Command.ofLine? (lines .postStop)) (version : String)
    (self : Pid) : Sequenced answers lines ((ofConfig config version self).follow answers) := by
  rw [follow_eq]
  have defined phase : (∃ command, Command.ofLine? (lines phase) = some command) ↔
      ¬Blank (lines phase) := by
    rw [← Command.ofLine?_eq_none_iff, ← Option.ne_none_iff_exists']
  constructor
  case order => exact Course.order_of
  case tokenized =>
    intro phase command h
    rw [Course.mem_attempts_of] at h
    cases phase with
    | preStart => rw [← preStart, reached?_preStart.1 h]
    | main => rw [main, (reached?_main.1 h).2]
    | postStop => rw [← postStop, (reached?_postStop.1 h).2]
  case preStart => simp only [Course.attempted_of, reached?_preStart, preStart, defined]
  case main =>
    simp only [Course.attempted_of, Course.mem_attempts_of, reached?_main, reached?_preStart,
      goesOn_iff, preStart, ← Command.ofLine?_eq_none_iff]
    cases Command.ofLine? (lines .preStart) <;> simp
  case postStop =>
    simp only [Course.attempted_of, reached?_main, reached?_postStop, postStop, ← defined]
    simp
  case outcomes =>
    intro phase command h
    simp [Course.mem_attempts_of.1 h]
  case missing =>
    intro phase h
    cases reached : reached? answers config phase with
    | none => simp [reached]
    | some command => exact absurd (Course.attempted_of.2 ⟨command, reached⟩) h
  case exitCode =>
    simp only [Course.mem_attempts_of]
    exact exitCode_of_eq_zero_iff preStart main postStop
  case otherwise => exact Result.exitCode_eq_zero_or_one _

/-- Main has to be there. With it the phases follow from the lines. -/
theorem refused_or_sequenced (lines : Phase → String)
    (answers : Phase → Command → Except Failure ExitStatus) (version : String) (self : Pid) :
    Blank (lines .main) ∧ Config.ofLines (lines .preStart) (lines .main) (lines .postStop) =
      .error .missingMainCommand ∨
    ¬Blank (lines .main) ∧ ∃ config,
      Config.ofLines (lines .preStart) (lines .main) (lines .postStop) = .ok config ∧
        Sequenced answers lines ((ofConfig config version self).follow answers) := by
  rw [← Command.ofLine?_eq_none_iff, Config.ofLines]
  cases main : Command.ofLine? (lines .main) with
  | none => exact .inl ⟨rfl, rfl⟩
  | some command => exact .inr ⟨nofun, _, rfl, .of_config rfl main rfl version self⟩

end Script

/-- What the reaper logs. All other lines are a script's. -/
def Line.isReapers : Line → Bool
  | .reapingFailed _ => true
  | _ => false

namespace Script

variable {P : Script → Prop}

theorem phase_of (log : ∀ line script, line.isReapers = false → P script → P (.log line script))
    (run : ∀ p c rest, (∀ answer, P (rest answer)) → P (.run p c rest)) (p : Phase) (c : Command)
    (rest : Outcome → Script) (h : ∀ outcome, P (rest outcome)) : P (phase p c rest) := by
  refine log _ _ rfl (run p c _ ?_)
  rintro (failure | status)
  · exact log _ _ rfl (h _)
  · dsimp only
    split <;> exact log _ _ rfl (h _)

/-- What is kept when a line or a phase is put before a script, is kept when all phases are. -/
theorem phases_of (log : ∀ line script, line.isReapers = false → P script → P (.log line script))
    (phase : ∀ p c rest, (∀ outcome, P (rest outcome)) → P (phase p c rest)) (config : Config)
    {rest : Result → Script} (h : ∀ result, P (rest result)) : P (phases config rest) := by
  have optional p (c : Option Command) {rest : Option Outcome → Script}
      (h : ∀ outcome, P (rest outcome)) : P (optional p c rest) := by
    cases c with
    | none => exact log _ _ rfl (h none)
    | some c => exact phase p c _ fun outcome => h (some outcome)
  refine optional _ _ fun preStart => ?_
  split
  · exact h _
  · exact phase _ _ _ fun main => optional _ _ fun postStop => h _

end Script

end PidOne
