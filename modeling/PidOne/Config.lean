import PidOne.Command

/-!
# Configuration and result of a run

Three command lines make a configuration, three outcomes make a result. A blank line means that
the phase is not defined, and main has to be.
-/

namespace PidOne

structure Config where
  preStart : Option Command
  main : Command
  postStop : Option Command
  /-- Milliseconds between reaping passes when no child ends. -/
  reapInterval : Nat
  /-- Whether to adopt orphaned descendants when not running as the first process. -/
  subreaper : Bool
  deriving DecidableEq, Repr

def defaultReapInterval : Nat := 1000

def Config.ofLines (preStart main postStop : String) : Except Failure Config :=
  match Command.ofLine? main with
  | none => .error .missingMainCommand
  | some main => .ok {
      preStart := Command.ofLine? preStart
      main
      postStop := Command.ofLine? postStop
      reapInterval := defaultReapInterval
      subreaper := true }

/-- The version of the program when none is stamped on it. -/
def defaultVersion : String := "0.1.0"

structure Result where
  preStart : Option Outcome := none
  main : Option Outcome := none
  postStop : Option Outcome := none
  deriving DecidableEq, Repr

/-- A failed pre-start or post-stop forces 1, else main decides. -/
def Result.exitCode (r : Result) : Nat :=
  if r.preStart.any (!·.success) || r.postStop.any (!·.success) then 1
  else if r.main.any (·.success) then 0 else 1

end PidOne
