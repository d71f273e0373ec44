import PidOne.CommandLine

/-!
# The parser and the log filters

What is documented of them: which line is in effect for each phase, and which lines of the log are
let through. The parser and the filters here are as documented.
-/

namespace PidOne.CommandLine

/-- What a list of arguments gives: a line for some of the phases, and two flags. -/
structure Given where
  line? : Phase → Option String
  version : Bool
  noSubreaper : Bool

/-- The line that is in effect. A given one wins though it is blank, then the variable. -/
inductive InEffect (given : Given) (environment : Environment) (phase : Phase) : String → Prop
  | given (flag : given.line? phase = some line) : InEffect given environment phase line
  | set (absent : given.line? phase = none)
    (variable_ : environment.lookup (variableName phase) = some line) :
    InEffect given environment phase line
  | unset (absent : given.line? phase = none)
    (nothing : environment.lookup (variableName phase) = none) :
    InEffect given environment phase ""

/-- What is documented of the parser: when it hands something over, each line is the one that is
in effect, and the flags are those that are given. -/
structure Parser.Documented (parser : Parser) (given : List String → Given) : Prop where
  line : ∀ arguments environment options, parser arguments environment = .ok options →
    ∀ phase, InEffect (given arguments) environment phase (options.line phase)
  version : ∀ arguments environment options, parser arguments environment = .ok options →
    options.version = (given arguments).version
  noSubreaper : ∀ arguments environment options, parser arguments environment = .ok options →
    options.noSubreaper = (given arguments).noSubreaper

/-- What is documented of the filters: one for a level lets through the lines of this level and of
those that are graver. -/
structure Filters.Documented (filters : Filters) : Prop where
  info : ∀ line, filters.lenient "info" line = true ↔ line.level.detail ≤ Level.info.detail

variable {given : Given} {arguments : List String} {environment : Environment} {phase : Phase}
variable {line : String} {options : Options}

theorem InEffect.unique {other : String} (h : InEffect given environment phase line)
    (h' : InEffect given environment phase other) : line = other := by
  cases h <;> cases h' <;> simp_all

theorem exists_inEffect (given : Given) (environment : Environment) (phase : Phase) :
    ∃ line, InEffect given environment phase line := by
  cases flag : given.line? phase with
  | some line => exact ⟨line, .given flag⟩
  | none =>
    cases variable_ : environment.lookup (variableName phase) with
    | some line => exact ⟨line, .set flag variable_⟩
    | none => exact ⟨"", .unset flag variable_⟩

def givenBy (arguments : List String) : Given :=
  match read arguments with
  | .ok a => {
      line? := fun phase => a.value? (.ofPhase phase)
      version := a.has .version
      noSubreaper := a.has .noSubreaper }
  | .error _ => { line? := fun _ => none, version := false, noSubreaper := false }

theorem inEffect_effective {a : Arguments}
    (parsed : read arguments = .ok a) (environment : Environment) (phase : Phase) :
    InEffect (givenBy arguments) environment phase (effective a environment phase) := by
  unfold effective
  cases flag : a.value? (.ofPhase phase) with
  | some line => exact .given (by rw [givenBy, parsed]; exact flag)
  | none =>
    have absent : (givenBy arguments).line? phase = none := by
      rw [givenBy, parsed]
      exact flag
    cases variable_ : environment.lookup (variableName phase) with
    | some line => exact .set absent variable_
    | none => exact .unset absent variable_

theorem read_of_parsed (parsed : parser arguments environment = .ok options) :
    ∃ a, read arguments = .ok a ∧ options = {
      line := effective a environment
      version := a.has .version
      noSubreaper := a.has .noSubreaper } := by
  unfold parser at parsed
  split at parsed
  · cases parsed
  · cases parsed
  · cases parsed
    exact ⟨_, ‹_›, rfl⟩

theorem parser_documented : parser.Documented givenBy where
  line arguments environment options parsed phase := by
    obtain ⟨a, read, rfl⟩ := read_of_parsed parsed
    exact inEffect_effective read environment phase
  version arguments environment options parsed := by
    obtain ⟨a, read, rfl⟩ := read_of_parsed parsed
    rw [givenBy, read]
  noSubreaper arguments environment options parsed := by
    obtain ⟨a, read, rfl⟩ := read_of_parsed parsed
    rw [givenBy, read]

theorem filters_documented : filters.Documented where
  info line := by
    have info : detailOf ((parts "info").filterMap directive?) = Level.info.detail := by
      decide +kernel
    simp only [filters, info, upTo, decide_eq_true_iff]

end PidOne.CommandLine
