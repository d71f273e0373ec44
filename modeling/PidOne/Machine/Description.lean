import PidOne.Machine.Process
import PidOne.Text.Number

/-!
# Descriptions of processes

The texts that the machine shows of a process to the others, below the directory of the processes.
-/

namespace PidOne.Machine

open Text (Bytes)

def Process.state (p : Process) : Bytes :=
  match p.life with
  | .ended _ => "Z"
  | .stopped => "T"
  | .running => if p.isBlocked || p.routine.isNone then "S" else "R"

def Process.stateWord (p : Process) : Bytes :=
  match p.state with
  | "Z" => "Z (zombie)"
  | "T" => "T (stopped)"
  | "S" => "S (sleeping)"
  | _ => "R (running)"

def Process.statLine (p : Process) : Bytes :=
  s!"{p.pid} ({p.name}) {p.state} {p.parent} {p.group} {p.session} 0 -1 4194304" ++
    " 100 0 0 0 0 0 0 0 20 0 1 0 1000 2875392 450 18446744073709551615" ++
    String.join (List.replicate 26 " 0") ++ " 0\n"

def hexDigits (width n : Nat) : Bytes :=
  let digits := Nat.toDigits 16 n
  String.ofList (List.replicate (width - digits.length) '0' ++ digits)

def signalBits (signals : List Signal) : Bytes :=
  hexDigits 16 <| (List.range 64).foldl (fun (n : Nat) (k : Nat) =>
    if signals.contains ((k : Int) + 1) then n + Nat.pow 2 k else n) 0

def Process.statusLines (p : Process) : Bytes :=
  let field (name value : Bytes) : Bytes := name ++ ":\t" ++ value ++ "\n"
  String.join [field "Name" p.name, field "Umask" (Text.octal 4 p.mask), field "State" p.stateWord,
    field "Tgid" (toString p.pid), field "Ngid" "0", field "Pid" (toString p.pid),
    field "PPid" (toString p.parent), field "TracerPid" "0", field "Uid" "0\t0\t0\t0",
    field "Gid" "0\t0\t0\t0", field "FDSize" "64", field "Groups" " ",
    field "NStgid" (toString p.pid), field "NSpid" (toString p.pid),
    field "NSpgid" (toString p.group), field "NSsid" (toString p.session),
    field "VmPeak" "    2848 kB", field "VmSize" "    2848 kB", field "VmRSS" "    1636 kB",
    field "Threads" "1", field "SigQ" "0/128619", field "SigPnd" (signalBits []),
    field "ShdPnd" (signalBits p.pending), field "SigBlk" (signalBits []),
    field "SigIgn" (signalBits p.ignored), field "SigCgt" (signalBits p.caught),
    field "CapInh" "0000000000000000", field "CapPrm" "000001ffffffffff",
    field "CapEff" "000001ffffffffff", field "CapBnd" "000001ffffffffff",
    field "CapAmb" "0000000000000000", field "NoNewPrivs" "0", field "Seccomp" "0"]

def terminated (texts : List Bytes) : Bytes := String.join (texts.map (· ++ "\x00"))

def Process.description? (p : Process) (name : Bytes) : Option Bytes :=
  match name with
  | "stat" => some p.statLine
  | "status" => some p.statusLines
  | "comm" => some (p.name ++ "\n")
  | "cmdline" => some (if p.hasEnded then "" else terminated p.arguments)
  | "environ" => some (if p.hasEnded then "" else terminated p.environment)
  | _ => none

def descriptionNames : List Bytes := ["cmdline", "comm", "environ", "stat", "status"]

end PidOne.Machine
