import PidOne.Supervisor.Simulation

/-!
# The program

What the program does with what the parser of its arguments hands over: a word to the user, the
refusal of a run without a main command, or a run. The parser and the log filters are libraries,
of which nothing but their answers is known here.
-/

namespace PidOne.CommandLine

abbrev Environment := List (String × String)

/-- The variable that is to hold the line of a phase. -/
def variableName : Phase → String
  | .preStart => "AGENT_INIT_PRE"
  | .main => "AGENT_INIT_MAIN"
  | .postStop => "AGENT_INIT_POST"

/-- What the parser hands over: a line for each phase, and two flags. -/
structure Options where
  line : Phase → String
  version : Bool
  noSubreaper : Bool

/-- What the parser has to say when it hands over nothing: what is wrong with the arguments, on
standard error, or the help that has been asked for. -/
inductive Refusal
  | usage (message : String)
  | help (text : String)

abbrev Parser := List String → Environment → Except Refusal Options

/-- The lines of the log that are let through. -/
abbrev Filter := Line → Bool

structure Filters where
  /-- The filter that a text stands for, if it stands for one. -/
  read? : String → Option Filter
  /-- The filter that is left of a text without those of its parts that stand for nothing. -/
  lenient : String → Filter

def Filters.inEffect (filters : Filters) (environment : Environment) : Filter :=
  ((environment.lookup "RUST_LOG").bind filters.read?).getD (filters.lenient "info")

inductive Decision
  | usage (message : String)
  | help (text : String)
  | version
  | invalid (failure : Failure)
  | supervise (config : Config)
  deriving DecidableEq, Repr

def decide (parser : Parser) (arguments : List String) (environment : Environment) : Decision :=
  match parser arguments environment with
  | .error (.usage message) => .usage message
  | .error (.help text) => .help text
  | .ok options =>
    if options.version then .version else
    match Config.ofLines (options.line .preStart) (options.line .main)
        (options.line .postStop) with
    | .error failure => .invalid failure
    | .ok config => .supervise { config with subreaper := !options.noSubreaper }

/-- How the program ended, what it wrote, the lines of its log that are let through, and the host
then. There is no exit code when a signal has ended the program, or when it has not ended. -/
structure Report (μ : Type) where
  exit : Option Nat
  signal : Option Signal := none
  stdout : String := ""
  stderr : String := ""
  log : List Line := []
  machine : μ

/-- What comes of the program in so many rounds, if it comes to a run. -/
def runFor {μ : Type} [Host μ] (parser : Parser) (filters : Filters) (limit : Nat)
    (arguments : List String) (environment : Environment) (m : μ) : Report μ :=
  let filter := filters.inEffect environment
  match decide parser arguments environment with
  | .usage message => { exit := some 1, stderr := message, machine := m }
  | .help text => { exit := some 0, stdout := text, machine := m }
  | .version => { exit := some 0, stdout := defaultVersion ++ "\n", machine := m }
  | .invalid failure =>
    { exit := some 1, log := [.invalidConfiguration failure].filter filter, machine := m }
  | .supervise config =>
    let (s, after) := Supervisor.runFor limit config defaultVersion m
    { exit := if (Host.killedBy? after).isSome then none else s.result?.map (·.exitCode)
      signal := Host.killedBy? after
      log := s.log.filter filter
      machine := after }

end PidOne.CommandLine
