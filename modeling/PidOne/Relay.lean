import PidOne.ExitStatus

/-!
# Relaying signals

Receivers hold the signals that arrive until a relay passes them to a command's process group.
Each receiver is one flag: a signal that arrives again before it is relayed is relayed once.
-/

namespace PidOne

structure Receivers where
  held : Signal → Bool := fun _ => false

namespace Receivers

def count (_ : Receivers) : Nat := Signal.forwarded.length

def arrive (r : Receivers) (s : Signal) : Receivers :=
  { held := fun x => if x = s && Signal.forwarded.contains s then true else r.held x }

def take (r : Receivers) (s : Signal) : Receivers :=
  { held := fun x => if x = s then false else r.held x }

def next? (r : Receivers) : Option Signal := Signal.forwarded.find? r.held

end Receivers

inductive Forwarded
  | delivered
  | skipped
  | undeliverable
  deriving DecidableEq, Repr

/-- The notice of a child's end is for the reaper and is not sent on. -/
def Signal.isForwardable (s : Signal) : Bool := s != Signal.child

structure Relay where
  group : Pid
  receivers : Receivers
  /-- The receivers that wake the relay when a signal arrives. -/
  watched : List Signal := []
  asleep : Bool := false
  stopRequested : Bool := false
  finished : Bool := false

namespace Relay

/-- A request to stop wakes the relay, and what it holds by then stays held. -/
def requestStop (r : Relay) : Relay := { r with stopRequested := true, asleep := false }

def arrive (r : Relay) (s : Signal) : Relay :=
  let r := { r with receivers := r.receivers.arrive s }
  if r.watched.contains s then
    { r with watched := r.watched.filter (· != s), asleep := false }
  else r

inductive Event
  | stop
  | send (signal : Signal) (result : Forwarded)
  | sleep

/-- The request to stop is looked at before the receivers, and these in their fixed order. -/
def step (r : Relay) (e : Event) : Option Relay :=
  if r.finished || r.asleep then none else
  match e, r.stopRequested, r.receivers.next? with
  | .stop, true, _ => some { r with finished := true }
  | .send signal result, false, some held =>
    if signal = held && (result != .skipped) == signal.isForwardable then
      some { r with
        receivers := r.receivers.take signal
        watched := r.watched ++ Signal.forwarded.takeWhile (!r.receivers.held ·) }
    else none
  | .sleep, false, none => some { r with watched := Signal.forwarded, asleep := true }
  | _, _, _ => none

end Relay

end PidOne
