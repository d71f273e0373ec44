import PidOne.Relay

/-!
# The forwarder

The receivers outlive the commands: they are kept from their registration on, and bound to a
relay while a command runs. Whoever registers anew or lets go of them loses what they hold.
-/

namespace PidOne

inductive Forwarder
  | unregistered
  | detached (receivers : Receivers)
  | attached (relay : Relay)

namespace Forwarder

inductive Event
  | register
  | arrive (signal : Signal)
  | attach (group : Pid)
  | relay (event : Relay.Event)
  | requestStop
  | detach
  | drop

def arrive (s : Signal) : Forwarder → Forwarder
  | .unregistered => .unregistered
  | .detached receivers => .detached (receivers.arrive s)
  | .attached relay => .attached (relay.arrive s)

def step : Forwarder → Event → Option Forwarder
  | _, .register => some (.detached {})
  | f, .arrive s => some (f.arrive s)
  | .detached receivers, .attach group => some (.attached { group, receivers })
  | .attached relay, .relay event => (relay.step event).map .attached
  | .attached relay, .requestStop => some (.attached relay.requestStop)
  | .attached relay, .detach => if relay.finished then some (.detached relay.receivers) else none
  | _, .drop => some .unregistered
  | _, _ => none

end Forwarder

end PidOne
