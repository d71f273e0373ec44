/-!
# Signals

Signals are plain numbers: the real-time range has no names of its own beyond an offset.
-/

namespace PidOne

abbrev Signal := Int

namespace Signal

def int : Signal := 2
def quit : Signal := 3
def kill : Signal := 9
def pipe : Signal := 13
def term : Signal := 15
def child : Signal := 17
def cont : Signal := 18
def stop : Signal := 19
def urgent : Signal := 23
def realtimeMin : Signal := 34
def realtimeMax : Signal := 64

def standardName? : Signal → Option String
  | 1 => some "SIGHUP"
  | 2 => some "SIGINT"
  | 3 => some "SIGQUIT"
  | 4 => some "SIGILL"
  | 5 => some "SIGTRAP"
  | 6 => some "SIGABRT"
  | 7 => some "SIGBUS"
  | 8 => some "SIGFPE"
  | 9 => some "SIGKILL"
  | 10 => some "SIGUSR1"
  | 11 => some "SIGSEGV"
  | 12 => some "SIGUSR2"
  | 13 => some "SIGPIPE"
  | 14 => some "SIGALRM"
  | 15 => some "SIGTERM"
  | 16 => some "SIGSTKFLT"
  | 17 => some "SIGCHLD"
  | 18 => some "SIGCONT"
  | 19 => some "SIGSTOP"
  | 20 => some "SIGTSTP"
  | 21 => some "SIGTTIN"
  | 22 => some "SIGTTOU"
  | 23 => some "SIGURG"
  | 24 => some "SIGXCPU"
  | 25 => some "SIGXFSZ"
  | 26 => some "SIGVTALRM"
  | 27 => some "SIGPROF"
  | 28 => some "SIGWINCH"
  | 29 => some "SIGIO"
  | 30 => some "SIGPWR"
  | 31 => some "SIGSYS"
  | _ => none

def isStandard (s : Signal) : Bool := s.standardName?.isSome

def realtime : List Signal := (List.range 31).map fun (k : Nat) => realtimeMin + k

def isRealtime (s : Signal) : Bool := realtimeMin ≤ s && s ≤ realtimeMax

/-- The standard signals relayed to a command: all that can be caught, except the notice of a
child's end, synchronous faults, a broken pipe, urgent data and the unused stack fault. -/
def forwardedStandard : List Signal :=
  [1, 2, 3, 15, 10, 12, 14, 18, 20, 21, 22, 26, 27, 24, 25, 28, 29, 6, 31, 5, 30]

/-- Every signal relayed to a command, in the order in which held signals are relayed. -/
def forwarded : List Signal := forwardedStandard ++ realtime

/-- `SIGTERM`, `SIGRTMIN+3`, or the number where there is no name. -/
def name (s : Signal) : String :=
  match s.standardName? with
  | some known => known
  | none =>
    if s.isRealtime then
      if s = realtimeMin then "SIGRTMIN" else s!"SIGRTMIN+{s - realtimeMin}"
    else s!"signal {s}"

end Signal

end PidOne
