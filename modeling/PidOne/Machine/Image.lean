import PidOne.Machine.Paths

/-!
# Executable files

Which program runs when a file is executed: the one that the file is, or the interpreter that its
first line names.
-/

namespace PidOne.Machine

open Text (Bytes)

/-- A program to run: which one, its arguments from its own name on, and the name that the process
gets. -/
structure Image where
  program : Bytes
  arguments : List Bytes
  name : Bytes

def baseName (path : Bytes) : Bytes := ((Text.split '/' path).getLast?).getD path

def isSpaceOrTab (c : Char) : Bool := c == ' ' || c == '\t'

def isEndOfName (c : Char) : Bool := isSpaceOrTab c || c == '\x00'

/-- The kernel looks at this many bytes of a file, and finds zeros behind its end. -/
def examined : Nat := 256

/-- The part of a first line, behind its mark, that counts. A line that does not end in what is
looked at has to have the whole name of the interpreter there. -/
def interpreterLine? (text : List Char) : Option (List Char) :=
  let head := text.take examined ++ List.replicate (examined - text.length) '\x00'
  let body := (head.take (examined - 1)).drop 2
  if ((head.takeWhile (· != '\x00')).drop 2).contains '\n' then
    let line := (head.drop 2).takeWhile (· != '\n')
    some ((line.reverse.dropWhile isSpaceOrTab).reverse)
  else
    let name := body.dropWhile isSpaceOrTab
    if name.any isEndOfName then some ((body.reverse.dropWhile isSpaceOrTab).reverse) else none

/-- An interpreter and its argument; blanks inside the argument are a part of it. -/
def interpreter? (text : Bytes) : Option (Bytes × List Bytes) :=
  match text.toList with
  | '#' :: '!' :: rest => do
    let line := (← interpreterLine? ('#' :: '!' :: rest)).dropWhile isSpaceOrTab
    if line.isEmpty then none else
    let name := line.takeWhile (!isEndOfName ·)
    let after := line.drop name.length
    let argument := match after with
      | '\x00' :: _ => []
      | after => (after.dropWhile isSpaceOrTab).takeWhile (· != '\x00')
    some (String.ofList name, if argument.isEmpty then [] else [String.ofList argument])
  | _ => none

def isWritten (m : Machine) (n : Node) : Bool :=
  m.opened.any fun o =>
    match o.channel with
    | .file k => k == n && o.writes
    | _ => false

def canExecute (f : Files) (n : Node) : Bool := Nat.land (f.get n).mode 0o111 != 0

/-- What executing a file means. A file that names an interpreter is an argument to it, and an
interpreter may name another one, but not without end. -/
def image (m : Machine) (caller : Process) : Nat → Bytes → List Bytes → Except Errno Image
  | 0, _, _ => .error Errno.tooManyLinks
  | depth + 1, path, arguments => do
    if path.isEmpty then throw Errno.accessDenied
    match ← find m caller path with
    | .node n =>
      match (m.files.get n).content with
      | .compiled name =>
        .ok { program := name, arguments, name := String.ofList ((baseName path).toList.take 15) }
      | .regular text _ =>
        if !canExecute m.files n then throw Errno.accessDenied
        if isWritten m n then throw 26
        match interpreter? text with
        | none => .error Errno.badExecutable
        | some (interpreter, argument) =>
          let i ← image m caller depth interpreter
            (interpreter :: argument ++ path :: arguments.drop 1)
          .ok { i with name := String.ofList ((baseName path).toList.take 15) }
      | _ => .error Errno.accessDenied
    | _ => .error Errno.accessDenied

def longestChain : Nat := 6

/-- One argument may have 131071 bytes, and a zero behind them. -/
def longestArgument : Nat := 131071

def imageOf (m : Machine) (caller : Process) (path : Bytes) (arguments environment : List Bytes) :
    Except Errno Image := do
  if path.isEmpty then throw Errno.noEntry
  let i ← image m caller longestChain path arguments
  if (arguments ++ environment).any (·.length > longestArgument) then
    throw Errno.argumentsTooLong
  .ok i

end PidOne.Machine
