import PidOne.Machine.Printing
import PidOne.Machine.Routine

/-!
# Tools

The monad in which programs are written: they know the name by which they are called, and what
they print waits until there is enough of it, or until they end.
-/

namespace PidOne.Machine

open Text (Bytes)
open Routine (Program)

structure Tooling where
  name : Bytes
  environment : List Bytes := []
  /-- The exit code for a text that cannot be written. -/
  writeFailure : Nat := 1
  printed : Bytes := ""
  code : Nat := 0

abbrev Tool := StateT Tooling Program

namespace Tool

def putError (text : Bytes) : Tool Unit := do
  let _ ← Program.write 2 text

/-- Write what has been printed; a failure ends the program. -/
def flush : Tool Unit := do
  let s ← get
  set { s with printed := "" }
  if !s.printed.isEmpty then
    match ← Program.write 1 s.printed with
    | .ok _ => pure ()
    | .error number =>
      putError s!"{s.name}: write error: {number.message}\n"
      Program.exit s.writeFailure

def blockSize : Nat := 4096

def print (text : Bytes) : Tool Unit := do
  modify fun s => { s with printed := s.printed ++ text }
  if (← get).printed.utf8ByteSize ≥ blockSize then flush

def printLine (text : Bytes) : Tool Unit := print (text ++ "\n")

def quit {α : Type} (code : Nat) : Tool α := do
  flush
  Program.exit code

def setCode (code : Nat) : Tool Unit := modify fun s => { s with code }

def setName (name : Bytes) : Tool Unit := modify fun s => { s with name }

def warn (message : Bytes) : Tool Unit := do
  flush
  putError s!"{(← get).name}: {message}\n"

/-- A message of a failure that does not end the program yet. -/
def fail (message : Bytes) (code : Nat := 1) : Tool Unit := do
  warn message
  modify fun s => { s with code := max s.code code }

/-- A message of a failure that ends the program. -/
def die {α : Type} (message : Bytes) (code : Nat := 1) : Tool α := do
  warn message
  quit code

def tryHelp {α : Type} (code : Nat := 1) : Tool α := do
  flush
  let help := s!"'{(← get).name} --help'"
  putError s!"Try {help} for more information.\n"
  Program.exit code

def misuse {α : Type} (message : Bytes) (code : Nat := 1) : Tool α := do
  warn message
  tryHelp code

def missingOperand {α : Type} (code : Nat := 1) : Tool α := misuse "missing operand" code

def missingAfter {α : Type} (operand : Bytes) (code : Nat := 1) : Tool α :=
  misuse s!"missing operand after {quoted operand}" code

def extraOperand {α : Type} (operand : Bytes) (code : Nat := 1) : Tool α :=
  misuse s!"extra operand {quoted operand}" code

def run (tool : List Bytes → Tool Unit) (start : Start) (writeFailure : Nat := 1) : Routine :=
  let whole : Tool Unit := do
    tool start.operands
    flush
    Program.exit (← get).code
  let tooling : Tooling :=
    { name := start.called, environment := start.environment, writeFailure }
  (StateT.run whole tooling) fun _ => .exit 0

/-! ## Options -/

inductive Takes
  | nothing
  | value
  | valueOrNothing
  deriving DecidableEq, Repr

/-- An option: its letter, its name if it has one, and what comes with it. Options without a
letter that is used have some other character. -/
structure Choice where
  letter : Char
  name : Bytes := ""
  takes : Takes := .nothing

structure Given where
  options : List (Char × Bytes) := []
  operands : List Bytes := []

namespace Given

def has (g : Given) (letter : Char) : Bool := g.options.any (·.1 == letter)

def value? (g : Given) (letter : Char) : Option Bytes :=
  (g.options.reverse.find? (·.1 == letter)).map (·.2)

end Given

def readLong (choices : List Choice) (text : Bytes) (rest : List Bytes) :
    Except Bytes (Char × Bytes × List Bytes) :=
  let name := String.ofList (text.toList.takeWhile (· != '='))
  let value := match text.toList.drop name.length with
    | _ :: value => some (String.ofList value)
    | [] => none
  let exact := choices.filter fun c => c.name == name && !c.name.isEmpty
  let found := if exact.isEmpty then choices.filter fun c => c.name.startsWith name else exact
  match found with
  | [] => .error s!"unrecognized option '--{name}'"
  | c :: more =>
    if more.any (·.letter != c.letter) then
      let names := " ".intercalate (found.map fun c => s!"'--{c.name}'")
      .error s!"option '--{text}' is ambiguous; possibilities: {names}"
    else match c.takes, value, rest with
      | .nothing, some _, _ => .error s!"option '--{c.name}' doesn't allow an argument"
      | .nothing, none, _ => .ok (c.letter, "", rest)
      | .valueOrNothing, value, _ => .ok (c.letter, value.getD "", rest)
      | .value, some value, _ => .ok (c.letter, value, rest)
      | .value, none, value :: rest => .ok (c.letter, value, rest)
      | .value, none, [] => .error s!"option '--{c.name}' requires an argument"

def readShort (choices : List Choice) :
    List Char → List Bytes → Except Bytes (List (Char × Bytes) × List Bytes)
  | [], rest => .ok ([], rest)
  | c :: cs, rest =>
    match choices.find? (·.letter == c), cs, rest with
    | none, _, _ => .error s!"invalid option -- '{c}'"
    | some { takes := .nothing, .. }, cs, rest =>
      (readShort choices cs rest).map fun (found, rest) => ((c, "") :: found, rest)
    | some { takes := .valueOrNothing, .. }, cs, rest => .ok ([(c, String.ofList cs)], rest)
    | some { takes := .value, .. }, [], value :: rest => .ok ([(c, value)], rest)
    | some { takes := .value, .. }, [], [] => .error s!"option requires an argument -- '{c}'"
    | some { takes := .value, .. }, cs, rest => .ok ([(c, String.ofList cs)], rest)

/-- Read arguments; options may stand behind operands unless the first operand ends them. -/
def readArguments (choices : List Choice) (mixes : Bool) :
    Nat → List Bytes → Given → Except Bytes Given
  | 0, _, g => .ok g
  | _, [], g => .ok g
  | fuel + 1, a :: rest, g =>
    match a.toList with
    | ['-'] => operand fuel a rest g
    | ['-', '-'] => .ok { g with operands := g.operands ++ rest }
    | '-' :: '-' :: text => do
      let (letter, value, rest) ← readLong choices (String.ofList text) rest
      readArguments choices mixes fuel rest { g with options := g.options ++ [(letter, value)] }
    | '-' :: letters => do
      let (found, rest) ← readShort choices letters rest
      readArguments choices mixes fuel rest { g with options := g.options ++ found }
    | _ => operand fuel a rest g
where
  operand (fuel : Nat) (a : Bytes) (rest : List Bytes) (g : Given) : Except Bytes Given :=
    if mixes then readArguments choices mixes fuel rest { g with operands := g.operands ++ [a] }
    else .ok { g with operands := g.operands ++ a :: rest }

/-- Read the arguments, or give up with a pointer at the help. -/
def options (choices : List Choice) (arguments : List Bytes) (mixes : Bool := true)
    (code : Nat := 1) : Tool Given := do
  match readArguments choices mixes (arguments.length + 1) arguments {} with
  | .ok g => pure g
  | .error message => misuse message code

def letters (text : String) : List Choice := text.toList.map fun letter => { letter }

end Tool

end PidOne.Machine
