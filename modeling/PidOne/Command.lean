import PidOne.Failure
import PidOne.Text.Blank

/-!
# Commands

A command line is split into words at blank characters and nowhere else: quotes, backslashes and
shell operators are ordinary characters.
-/

namespace PidOne

structure Command where
  program : String
  arguments : List String
  deriving DecidableEq, Repr

namespace Command

def ofWords? : List (List Char) → Option Command
  | [] => none
  | program :: arguments => some ⟨String.ofList program, arguments.map String.ofList⟩

/-- The command on a line, or nothing when the line is blank. -/
def ofLine? (line : String) : Option Command := ofWords? (Text.words line.toList)

def ofLine (line : String) : Except Failure Command :=
  match ofLine? line with
  | some command => .ok command
  | none => .error .emptyCommand

def display (c : Command) : String := " ".intercalate (c.program :: c.arguments)

end Command

end PidOne
