import PidOne.Machine.Calls
import PidOne.Machine.Shell.Invocation
import PidOne.Machine.Tools.Search
import PidOne.Machine.Tools.Sorting

/-!
# Programs

The programs that the machine has, by their names.
-/

namespace PidOne.Machine

open Text (Bytes)
open Routine (Program)

def shells : List (Bytes × (Start → Routine)) := [("dash", runShell), ("sh", runShell)]

def wordTools : List (Bytes × (List Bytes → Tool Unit)) :=
  [("true", fun _ => Tool.succeed), ("false", fun _ => Tool.failAtOnce), ("echo", Tool.echo),
    ("printf", Tool.printf), ("test", Tool.test false), ("[", Tool.test true),
    ("basename", Tool.basename), ("dirname", Tool.dirname), ("seq", Tool.seq), ("yes", Tool.yes),
    ("expr", Tool.expr)]

def processTools : List (Bytes × (List Bytes → Tool Unit)) :=
  [("sleep", Tool.sleep), ("date", Tool.date), ("env", Tool.env), ("printenv", Tool.printenv),
    ("nohup", Tool.nohup), ("nice", Tool.nice), ("setsid", Tool.setsid),
    ("timeout", Tool.timeout), ("kill", Tool.kill), ("id", Tool.id),
    ("whoami", Tool.tell "" "root"), ("uname", Tool.uname), ("hostname", Tool.tell "" "localhost"),
    ("arch", Tool.tell "" "x86_64"), ("nproc", Tool.tell "" "4"), ("pwd", Tool.pwd),
    ("tty", Tool.tty), ("sync", fun _ => Tool.succeed)]

def fileTools : List (Bytes × (List Bytes → Tool Unit)) :=
  [("touch", Tool.touch), ("mkdir", Tool.mkdir), ("rmdir", Tool.rmdir), ("rm", Tool.rm),
    ("unlink", Tool.unlink), ("mkfifo", Tool.mkfifo), ("mktemp", Tool.mktemp),
    ("truncate", Tool.truncate), ("cp", Tool.cp), ("mv", Tool.mv), ("ln", Tool.ln),
    ("link", Tool.link), ("chmod", Tool.chmod), ("readlink", Tool.readlink),
    ("realpath", Tool.realpath), ("stat", Tool.stat), ("ls", Tool.ls)]

def textTools : List (Bytes × (List Bytes → Tool Unit)) :=
  [("cat", Tool.cat), ("tee", Tool.tee), ("head", Tool.head), ("tail", Tool.tail),
    ("tac", Tool.tac), ("rev", Tool.rev), ("wc", Tool.wc), ("tr", Tool.tr), ("cut", Tool.cut),
    ("paste", Tool.paste), ("nl", Tool.nl), ("fold", Tool.fold), ("sort", Tool.sort),
    ("uniq", Tool.uniq), ("grep", Tool.grep false false), ("egrep", Tool.grep true false),
    ("fgrep", Tool.grep false true)]

def writeFailureOf (name : Bytes) : Nat :=
  if ["sort", "test", "[", "grep", "egrep", "fgrep", "printenv", "ls", "expr"].contains name then 2
  else if ["env", "nice", "nohup", "timeout"].contains name then 125
  else 1

def programs : List (Bytes × (Start → Routine)) :=
  shells ++ (wordTools ++ processTools ++ fileTools ++ textTools).map fun (name, tool) =>
    (name, fun start => Tool.run tool start (writeFailureOf name))

def catalogue : Catalogue := fun name start =>
  match programs.lookup name with
  | some program => program start
  | none => .exit 127

end PidOne.Machine
