import PidOne.Supervisor
import PidOne.Tasks

/-!
# Runs of the supervisor on a host

Of the supervisor's tasks the first that can take a step takes it; when none can, the host goes on.
-/

namespace PidOne.Supervisor

variable {μ : Type} [Host μ]

/-- What the operation at the head of the script asks the kernel for. -/
def ask (s : Supervisor) (m : μ) : μ :=
  match s.script with
  | .adoptOrphans _ => Host.adoptOrphans m
  | _ => m

def reaperNext (s : Supervisor) (m : μ) : Option (Event × μ) :=
  s.reaper.bind fun reaper => (reaper.next m).map fun (event, m) => (.reaper event, m)

def next (s : Supervisor) (m : μ) : Option (Event × μ) :=
  if s.advance.isSome then some (.advance, s.ask m) else
  match s.runner.next s.table m with
  | some (event, after) =>
    if (s.runnerStep event).isSome then some (.runner event, after) else s.reaperNext m
  | none => s.reaperNext m

/-- Take a step; one that is not possible changes nothing. -/
def take (s : Supervisor) (e : Event) : Supervisor := (s.step e).getD s

/-- One round: a signal that has come in, else a step of a task, else the host. -/
def round (s : Supervisor) (m : μ) : Option (Supervisor × μ) :=
  match Host.arrival? m with
  | some (signal, m) => some (s.take (.signal signal), m)
  | none =>
    match s.next m with
    | some (event, m) => some (s.take event, m)
    | none => (Host.advance m (s.reaper.bind (·.alarm))).map (s, ·)

/-- Whether there is a result, or the supervisor itself has been killed. -/
def isOver (s : Supervisor) (m : μ) : Bool := s.result?.isSome || (Host.killedBy? m).isSome

/-- So many rounds, or less if it is over before. -/
def rounds : Nat → Supervisor → μ → Supervisor × μ
  | 0, s, m => (s, m)
  | limit + 1, s, m =>
    if s.isOver m then (s, m) else
    match s.round m with
    | some (s, m) => rounds limit s m
    | none => (s, m)

def runFor (limit : Nat) (config : Config) (version : String) (m : μ) : Supervisor × μ :=
  rounds limit (start config version (Host.self m)) m

/-- More rounds than ten seconds of a machine's time have. -/
def roundLimit : Nat := 3000000

def run (config : Config) (version : String) (m : μ) : Supervisor × μ :=
  runFor roundLimit config version m

end PidOne.Supervisor
