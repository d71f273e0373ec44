import PidOne.Text.Bytes

/-!
# Shell syntax

The words and commands of the shell that scripts are written in.
-/

namespace PidOne.Machine.Shell

open Text (Bytes)

/-- What is made of a parameter's value. Where it matters whether the parameter is set, an empty
value may count as none. -/
inductive Use
  | value
  | length
  | default (evenEmpty : Bool)
  | assign (evenEmpty : Bool)
  | demand (evenEmpty : Bool)
  | alternative (evenEmpty : Bool)
  | strip (atEnd longest : Bool)
  | bad
  deriving DecidableEq, Repr

inductive Mode
  | read
  | write
  /-- Write, even where files are not to be overwritten. -/
  | overwrite
  | append
  | both
  | duplicate
  /-- The target is itself the text that is read. -/
  | here
  deriving DecidableEq, Repr

mutual

/-- A piece of a word. Quoted pieces are not split into fields. -/
inductive Part
  | text (text : Bytes) (quoted : Bool)
  | parameter (name : Bytes) (use : Use) (operand : List Part) (quoted : Bool)
  | arithmetic (parts : List Part) (quoted : Bool)
  | command (tree : Option Tree) (quoted : Bool)

inductive Redirection
  | mk (descriptor : Nat) (mode : Mode) (target : List Part)

inductive Tree
  | simple (line : Nat) (assignments words : List (List Part)) (redirections : List Redirection)
  | pipe (line : Nat) (commands : List Tree) (isBackground : Bool)
  | group (line : Nat) (body : Tree) (redirections : List Redirection)
  | background (line : Nat) (body : Tree) (redirections : List Redirection)
  | subshell (line : Nat) (body : Tree) (redirections : List Redirection)
  | sequence (first second : Tree)
  | both (first second : Tree)
  | either (first second : Tree)
  | negation (body : Tree)
  | conditional (test yes : Tree) (no : Option Tree)
  /-- The body runs as long as the test's success is as stated. -/
  | loop (positive : Bool) (test body : Tree)
  | each (line : Nat) (name : Bytes) (words : List (List Part)) (body : Tree)
  /-- The first branch with a pattern for the subject is run. -/
  | choice (line : Nat) (subject : List Part) (branches : List (List (List Part) × Option Tree))
  | definition (line : Nat) (name : Bytes) (body : Tree)

end

abbrev Word := List Part

instance : Inhabited Tree := ⟨.simple 0 [] [] []⟩

def Part.isQuoted : Part → Bool
  | .text _ quoted => quoted
  | .parameter _ _ _ quoted => quoted
  | .arithmetic _ quoted => quoted
  | .command _ quoted => quoted

/-- The text of a word without quotes or expansions, which may be a reserved word. -/
def Word.plain? : Word → Option Bytes
  | [.text text false] => some text
  | _ => none

/-- The text of a word whose expansions do not count. -/
def Word.literal (w : Word) : Bytes :=
  String.join (w.map fun
    | .text text _ => text
    | _ => "")

def isNameStart (c : Char) : Bool := c.isAlpha || c == '_'

def isNameChar (c : Char) : Bool := c.isAlphanum || c == '_'

def isName (text : Bytes) : Bool :=
  text.toList.head?.any isNameStart && text.toList.all isNameChar

/-- The parameters with a name of one character that is no letter and no digit. -/
def isSpecial (c : Char) : Bool := "#?$!@*-".toList.contains c

def assignment? : Word → Option (Bytes × Word)
  | .text text false :: rest =>
    let cs := text.toList
    let name := cs.takeWhile isNameChar
    match cs.drop name.length with
    | '=' :: value =>
      if name.head?.any isNameStart then
        some (String.ofList name,
          if value.isEmpty then rest else .text (String.ofList value) false :: rest)
      else none
    | _ => none
  | _ => none

end PidOne.Machine.Shell
