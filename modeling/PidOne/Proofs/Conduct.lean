import Mathlib.Logic.ExistsUnique
import PidOne.Machine.Initial
import PidOne.Proofs.CommandLine
import PidOne.Proofs.Supervisor.Returning
import PidOne.Proofs.Supervisor.Starts

/-!
# What the program does

What comes of a list of arguments and an environment on a host: a word to the user and nothing
else, or a run of the supervisor on the three lines that are in effect. Of the parser and of the
log filters only what is documented of them is used, and of the host its law.
-/

namespace PidOne

theorem Config.of_ofLines {preStart main postStop : String} {config : Config}
    (h : Config.ofLines preStart main postStop = .ok config) :
    config.preStart = Command.ofLine? preStart ∧ Command.ofLine? main = some config.main ∧
      config.postStop = Command.ofLine? postStop := by
  unfold Config.ofLines at h
  split at h
  · cases h
  · rename_i defined
    cases h
    exact ⟨rfl, defined, rfl⟩

theorem Config.ofLines_of_blank {preStart main postStop : String} (blank : Blank main) :
    Config.ofLines preStart main postStop = .error .missingMainCommand := by
  rw [Config.ofLines, Command.ofLine?_eq_none_iff.2 blank]

theorem Config.ofLines_of_not_blank {preStart main postStop : String} (defined : ¬Blank main) :
    ∃ config, Config.ofLines preStart main postStop = .ok config := by
  cases h : Command.ofLine? main with
  | none => exact absurd (Command.ofLine?_eq_none_iff.1 h) defined
  | some command => exact ⟨_, by rw [Config.ofLines, h]⟩

namespace CommandLine

def Lines (given : Given) (environment : Environment) (lines : Phase → String) : Prop :=
  ∀ phase, InEffect given environment phase (lines phase)

/-- The first process adopts orphans anyway. -/
def asksForOrphans (given : Given) (self : Pid) : Bool := !given.noSubreaper && self != 1

def configured (given : Given) (commands : Config) : Config :=
  { commands with subreaper := !given.noSubreaper }

variable {μ : Type} [Host μ]

open Supervisor (RegistersAt ForksAt ExecutesAt Ends)

/-- A run of the supervisor on three lines, and the report after so many rounds of it. -/
structure Supervised (given : Given) (filter : Filter) (lines : Phase → String) (m : μ)
    (report : Nat → Report μ) (config : Config) (s : Supervisor) : Prop where
  defined : ∃ commands,
    Config.ofLines (lines .preStart) (lines .main) (lines .postStop) = .ok commands ∧
      config = configured given commands
  run : ∀ n, ∃ es, Run Supervisor.Steps s es (s.rounds n m).1
  machine : ∀ n, (report n).machine = (s.rounds n m).2
  signal : ∀ n, (report n).signal = Host.killedBy? (s.rounds n m).2
  exit : ∀ n code, (report n).exit = some code ↔ (report n).signal = none ∧
    ∃ result, (s.rounds n m).1.result? = some result ∧ result.exitCode = code
  log : ∀ n, (report n).log = (s.rounds n m).1.log.filter filter
  /-- Standard output is left to the commands. -/
  silent : ∀ n, (report n).stdout = "" ∧ (report n).stderr = ""
  /-- The result follows from the three lines and from what the runner has answered, and the kernel
  has been asked for a child for each command that this comes to, and for no other one. -/
  sequenced : ∀ n result, (s.rounds n m).1.result? = some result → ∃ answers course,
    Script.Sequenced answers lines course ∧ course.result = result ∧ ∀ phase command,
      (∃ k < n, ForksAt s m k phase command) ↔ (phase, command) ∈ course.attempts
  /-- A child that the kernel has given executes the command. -/
  executed : ∀ k n result phase command pid, ForksAt s m k phase command →
    (Host.fork (s.rounds k m).2 command true).1 = .ok pid →
    (s.rounds n m).1.result? = some result → ∃ j, k < j ∧ j < n ∧
      ExecutesAt s m j phase command pid
  /-- The kernel is asked about orphans before it is asked for the first child. -/
  registered : ∀ n phase command, ForksAt s m n phase command →
    asksForOrphans given (Host.self m) = true → ∃ k < n, RegistersAt s m k
  asked : ∀ n, RegistersAt s m n → asksForOrphans given (Host.self m) = true
  /-- If the commands end, there is a result, and the program exits with its code. -/
  exits : Ends s m → ∃ n result, ∀ limit ≥ n, (s.rounds limit m).1.result? = some result ∧
    (report limit).exit = some result.exitCode
  /-- A result that comes early enough is the result of a whole run. -/
  whole : ∀ n result, (s.rounds n m).1.result? = some result → n ≤ Supervisor.roundLimit →
    (Supervisor.run config defaultVersion m).1.result? = some result

/-- What comes of these arguments in this environment. -/
structure Conduct (parser : Parser) (given : List String → Given) (filters : Filters)
    (arguments : List String) (environment : Environment) (m : μ) (report : Nat → Report μ) :
    Prop where
  code : ∀ n code, (report n).exit = some code → code = 0 ∨ code = 1
  usage : ∀ message, parser arguments environment = .error (.usage message) → ∀ n,
    report n = { exit := some 1, stderr := message, machine := m }
  help : ∀ text, parser arguments environment = .error (.help text) → ∀ n,
    report n = { exit := some 0, stdout := text, machine := m }
  version : ∀ options, parser arguments environment = .ok options →
    (given arguments).version = true → ∀ n,
      report n = { exit := some 0, stdout := defaultVersion ++ "\n", machine := m }
  lines : ∃! lines, Lines (given arguments) environment lines
  blank : ∀ options lines, parser arguments environment = .ok options →
    (given arguments).version = false → Lines (given arguments) environment lines →
    Blank (lines .main) → ∀ n, report n = {
      exit := some 1
      log := [.invalidConfiguration .missingMainCommand].filter (filters.inEffect environment)
      machine := m }
  /-- Where the environment has no filter, all lines but those of more detail are let through. -/
  logged : (environment.lookup "RUST_LOG").bind filters.read? = none → ∀ line,
    filters.inEffect environment line = true ↔ line.level.detail ≤ Level.info.detail
  supervised : ∀ options lines, parser arguments environment = .ok options →
    (given arguments).version = false → Lines (given arguments) environment lines →
    ¬Blank (lines .main) → ∃ config,
      Supervised (given arguments) (filters.inEffect environment) lines m report config
        (.start config defaultVersion (Host.self m))

variable {given : Given} {environment : Environment} {phase : Phase} {line : String}
variable {lines : Phase → String} {m : μ} {config : Config}

theorem existsUnique_lines (given : Given) (environment : Environment) :
    ∃! lines, Lines given environment lines := by
  obtain ⟨lines, inEffect⟩ := Classical.skolem.1 (exists_inEffect given environment)
  exact ⟨lines, inEffect, fun _ other => funext fun phase => (other phase).unique (inEffect phase)⟩

variable {parser : Parser} {filters : Filters} {arguments : List String} {options : Options}
variable {give : List String → Given}

theorem decide_of_lines (documented : parser.Documented give)
    (parsed : parser arguments environment = .ok options)
    (goesOn : (give arguments).version = false)
    (inEffect : Lines (give arguments) environment lines) : decide parser arguments environment =
      match Config.ofLines (lines .preStart) (lines .main) (lines .postStop) with
      | .error failure => .invalid failure
      | .ok commands => .supervise (configured (give arguments) commands) := by
  have line phase : options.line phase = lines phase :=
    (documented.line _ _ _ parsed phase).unique (inEffect phase)
  rw [decide, parsed]
  simp only [line, documented.version _ _ _ parsed, documented.noSubreaper _ _ _ parsed, goesOn]
  rfl

-- A blank flag hides the command of the environment.
example : decide CommandLine.parser ["--main", " "] [("AGENT_INIT_MAIN", "true")] =
    .invalid .missingMainCommand := by
  decide +kernel

theorem runFor_of_decide (decision : decide parser arguments environment = .supervise config)
    (limit : Nat) : runFor parser filters limit arguments environment m =
      let r := (Supervisor.start config defaultVersion (Host.self m)).rounds limit m
      { exit := if (Host.killedBy? r.2).isSome then none else r.1.result?.map (·.exitCode)
        signal := Host.killedBy? r.2
        log := r.1.log.filter (filters.inEffect environment)
        machine := r.2 } := by
  rw [runFor, decision]
  rfl

theorem supervised_run [Host.Lawful μ] {commands : Config}
    (decision : decide parser arguments environment = .supervise (configured given commands))
    (defined : Config.ofLines (lines .preStart) (lines .main) (lines .postStop) = .ok commands) :
    Supervised given (filters.inEffect environment) lines m
      (fun limit => runFor parser filters limit arguments environment m)
      (configured given commands)
      (.start (configured given commands) defaultVersion (Host.self m)) := by
  simp only [runFor_of_decide decision]
  constructor
  case defined => exact ⟨commands, defined, rfl⟩
  case run => exact fun n => Supervisor.run_rounds n _ m
  case machine => exact fun _ => rfl
  case signal => exact fun _ => rfl
  case exit =>
    intro n code
    cases Host.killedBy? (Supervisor.rounds n _ m).2 <;> simp
  case log => exact fun _ => rfl
  case silent => exact fun _ => ⟨rfl, rfl⟩
  case sequenced =>
    intro n result returned
    obtain ⟨answers, same, forks⟩ := Supervisor.forks_iff_attempted m returned
    obtain ⟨preStart, main, postStop⟩ := Config.of_ofLines defined
    have follows := @Script.Sequenced.of_config answers lines (configured given commands) preStart
      main postStop defaultVersion (Host.self m)
    exact ⟨answers, _, follows, same, forks⟩
  case executed =>
    intro k n result phase command pid forks born returned
    exact Supervisor.executes_of_forks forks born returned
  case registered =>
    intro n phase command forks asks
    exact (Supervisor.registers_before_forks forks).2 asks
  case asked =>
    intro n registers
    obtain ⟨es, run⟩ := Supervisor.run_rounds (n + 1) _ m
    exact (Supervisor.adopting_of_run run).wants
      ((Supervisor.adoptsOrphans_rounds rfl m _).2 ⟨n, by omega, registers⟩)
  case exits =>
    intro ends
    obtain ⟨n, result, returned⟩ := Supervisor.returns (Supervisor.Orderly.start _ _ _) ends
    refine ⟨n, result, fun limit later => ⟨returned limit later, ?_⟩⟩
    simp [ends.survives limit, returned limit later]
  case whole =>
    intro n result returned early
    rw [Supervisor.run, Supervisor.runFor, Supervisor.rounds_of_result returned early, returned]

/-- A machine with a single program, whose supervising process is not the first one. -/
def smallMachine : Machine where
  clock := 0
  files := {
    files := #[{ content := .directory [("true", 1)] 0, mode := 0o755, links := 2 },
      { content := .compiled "true", mode := 0o755, links := 1 },
      { content := .regular "" 0, mode := 0o644, links := 1 }] }
  processes := [{
    pid := 2, parent := 1, group := 2, session := 2, name := "agent-init", directory := 0 }]
  nextPid := 3
  self := 2
  outer := 1
  subreaper := false
  scratch := 0
  stdout := 2
  stderr := 2

def smallArguments : List String := ["--main", "/true"]

def smallConfig : Config where
  preStart := none
  main := ⟨"/true", []⟩
  postStop := none
  reapInterval := defaultReapInterval
  subreaper := true

def smallStart : Supervisor := .start smallConfig defaultVersion 2

theorem result_small :
    (smallStart.rounds 38 smallMachine).1.result? = some { main := some ⟨true, true⟩ } := by
  decide +kernel

theorem ends_small : Ends smallStart smallMachine := by
  have orderly : smallStart.Orderly := .start smallConfig defaultVersion 2
  have collected : (smallStart.rounds 38 smallMachine).1.table.waiters = [] := by decide +kernel
  refine .of_result orderly result_small (by decide +kernel) fun pid => ?_
  rw [Table.isTracked, collected]
  rfl

theorem read_small : read smallArguments = .ok { values := [(.main, "/true")] } := by
  have given : (read smallArguments).toOption = some { values := [(.main, "/true")] } := by
    decide +kernel
  cases parsed : read smallArguments with
  | error =>
    rw [parsed] at given
    cases given
  | ok a =>
    rw [parsed] at given
    cases given
    rfl

theorem config_small : Config.ofLines "" "/true" "" = .ok smallConfig := by
  have main : Command.ofLine? "/true" = some smallConfig.main := by decide +kernel
  have none : Command.ofLine? "" = .none := by decide +kernel
  rw [Config.ofLines, main, none]
  rfl

end CommandLine

end PidOne
