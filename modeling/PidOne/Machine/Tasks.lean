import PidOne.Machine.Schedule
import PidOne.Machine.Supervising
import PidOne.Tasks

/-!
# The machine as a host
-/

namespace PidOne

namespace Machine

def milliseconds (m : Machine) : Nat := m.clock / 1000

def microseconds (milliseconds : Nat) : Nat := milliseconds * 1000

end Machine

instance : Host Machine where
  self m := m.self
  killedBy? m := m.killedBy
  milliseconds := Machine.milliseconds
  arrival? := Machine.arrival?
  fork := Machine.spawn
  exec := Machine.startCommand
  discard := Machine.remove
  waitAny := Machine.waitAny
  signalGroup := Machine.signalGroup
  adoptOrphans := Machine.adoptOrphans
  advance m alarm := m.advance (alarm.map Machine.microseconds)

theorem Machine.advance_isSome (m : Machine) (limit : Nat) :
    (m.advance (some limit)).isSome = true := by
  unfold Machine.advance
  grind

instance : Host.Lawful Machine where
  advance_isSome m alarm := m.advance_isSome (Machine.microseconds alarm)

end PidOne
