import PidOne.Command
import PidOne.Relay
import PidOne.Table.Pass

/-!
# Hosts

The kernel, as far as the supervising process asks it, with all that goes on beside that process.
What it answers is left open: a machine is one host, and whatever else behaves as the laws of hosts
say is another.
-/

namespace PidOne

class Host (μ : Type) where
  /-- The PID of the supervising process. -/
  self : μ → Pid
  /-- The signal that has killed the supervising process, if one has. -/
  killedBy? : μ → Option Signal
  milliseconds : μ → Nat
  /-- Take the next signal that has come in for the supervising process. -/
  arrival? : μ → Option (Signal × μ)
  /-- A child, in a group of its own or in the supervising process's group. -/
  fork : μ → Command → (ownGroup : Bool) → Except Cause Pid × μ
  /-- Execute the command in such a child. -/
  exec : μ → Pid → Command → Option Errno × μ
  /-- Collect a child that could not execute its command. -/
  discard : μ → Pid → μ
  /-- Collect a child that has ended, without waiting for one. -/
  waitAny : μ → WaitAnswer × μ
  signalGroup : μ → Int → Signal → Except Errno μ
  /-- Make orphans children of the supervising process from now on. -/
  adoptOrphans : μ → μ
  /-- Let everything else go on, at most until the time of the alarm. -/
  advance : μ → (alarm : Option Nat) → Option μ

/-- Time can always go by up to an alarm. -/
class Host.Lawful (μ : Type) [Host μ] : Prop where
  advance_isSome : ∀ (m : μ) (alarm : Nat), (Host.advance m (some alarm)).isSome = true

/-- Send a signal on to a group, unless it is one that is not sent on. -/
def Host.forward {μ : Type} [Host μ] (m : μ) (group : Int) (s : Signal) : Forwarded × μ :=
  if !s.isForwardable then (.skipped, m) else
  match Host.signalGroup m group s with
  | .ok m => (.delivered, m)
  | .error _ => (.undeliverable, m)

end PidOne
