import PidOne.Machine.Shell.Commands
import PidOne.Machine.Testing

/-!
# Options

The options of the shell itself, as its arguments and `set` change them, and the options of its
own commands.
-/

namespace PidOne.Machine.Shell

open Text (Bytes)

def optionNames : List (Bytes × Option Char) :=
  [("errexit", some 'e'), ("noglob", some 'f'), ("ignoreeof", some 'I'),
    ("interactive", some 'i'), ("monitor", some 'm'), ("noexec", some 'n'), ("stdin", some 's'),
    ("xtrace", some 'x'), ("verbose", some 'v'), ("vi", some 'V'), ("emacs", some 'E'),
    ("noclobber", some 'C'), ("allexport", some 'a'), ("notify", some 'b'),
    ("nounset", some 'u'), ("privileged", some 'p'), ("nolog", some '\x01'),
    ("debug", some '\x02')]

def setOption (letter : Char) (isOn : Bool) : ShellM Unit :=
  modify fun s =>
    let others := s.options.filter (· != letter)
    { s with options := if isOn then letter :: others else others }

def isOptionOn (s : Shell) (letter : Option Char) : Bool := letter.any s.has

def optionSign (isOn : Bool) : Bytes := if isOn then "-" else "+"

/-- A table of all options, or commands that set them. -/
def listOptions (isTable : Bool) : ShellM Unit := do
  let s ← get
  if isTable then print "Current option settings\n"
  optionNames.forM fun (name, letter) =>
    let isOn := s.isOptionOn letter
    if isTable then
      let blanks := String.ofList (List.replicate (16 - name.length) ' ')
      print (name ++ blanks ++ (if isOn then "on" else "off") ++ "\n")
    else print s!"set {optionSign isOn}o {name}\n"

def changeNamed (name : Option Bytes) (isOn : Bool) : ShellM Unit := do
  match name with
  | none => listOptions isOn
  | some name =>
    match optionNames.lookup name with
    | some (some letter) => setOption letter isOn
    | _ => fail s!"Illegal option {optionSign isOn}o {name}"

def changeLettered (letter : Char) (isOn : Bool) : ShellM Unit := do
  if letter.toNat > 2 && optionNames.any (·.2 == some letter) then setOption letter isOn
  else fail s!"Illegal option {optionSign isOn}{letter}"

structure Settings where
  takesCommand : Bool := false
  /-- Whether two dashes have ended the options. -/
  isEnded : Bool := false

/-- Letters of one argument; some take the next argument. -/
def changeLetters (isInvocation isOn : Bool) :
    List Char → List Bytes → Settings → ShellM (List Bytes × Settings)
  | [], rest, x => pure (rest, x)
  | c :: cs, rest, x => do
    if c == 'c' && isInvocation then
      changeLetters isInvocation isOn cs rest { x with takesCommand := true }
    else if c == 'l' && isInvocation then changeLetters isInvocation isOn cs rest x
    else if c == 'o' then
      changeNamed rest.head? isOn
      changeLetters isInvocation isOn cs (rest.drop 1) x
    else
      changeLettered c isOn
      changeLetters isInvocation isOn cs rest x

def changeOptions (isInvocation : Bool) : Nat → List Bytes → Settings →
    ShellM (List Bytes × Settings)
  | 0, rest, x => pure (rest, x)
  | _, [], x => pure ([], x)
  | fuel + 1, a :: rest, x => do
    match a.toList with
    | ['-'] =>
      if !isInvocation then
        setOption 'x' false
        setOption 'v' false
      pure (rest, x)
    | ['-', '-'] => pure (rest, { x with isEnded := true })
    | '-' :: letters =>
      let (rest, x) ← changeLetters isInvocation true letters rest x
      changeOptions isInvocation fuel rest x
    | '+' :: letters =>
      let (rest, x) ← changeLetters isInvocation false letters rest x
      changeOptions isInvocation fuel rest x
    | _ => pure (a :: rest, x)

/-- The letters in front of a command's operands; some have a value with them. -/
def readLetters (known : List (Char × Bool)) :
    List Char → List Bytes → ShellM (List (Char × Bytes) × List Bytes)
  | [], rest => pure ([], rest)
  | c :: cs, rest => do
    match known.lookup c, cs, rest with
    | none, _, _ => fail s!"Illegal option -{c}"
    | some false, cs, rest =>
      let (found, rest) ← readLetters known cs rest
      pure ((c, "") :: found, rest)
    | some true, [], [] => fail s!"No arg for -{c} option"
    | some true, [], value :: rest => pure ([(c, value)], rest)
    | some true, cs, rest => pure ([(c, String.ofList cs)], rest)

def readOptionsWith (known : List (Char × Bool)) :
    Nat → List Bytes → ShellM (List (Char × Bytes) × List Bytes)
  | 0, rest => pure ([], rest)
  | _, [] => pure ([], [])
  | fuel + 1, a :: rest => do
    match a.toList with
    | ['-'] => pure ([], a :: rest)
    | ['-', '-'] => pure ([], rest)
    | '-' :: letters =>
      let (found, rest) ← readLetters known letters rest
      let (more, rest) ← readOptionsWith known fuel rest
      pure (found ++ more, rest)
    | _ => pure ([], a :: rest)

def readOptions (known : List (Char × Bool)) (arguments : List Bytes) :
    ShellM (List (Char × Bytes) × List Bytes) :=
  readOptionsWith known arguments.length arguments

def operands (arguments : List Bytes) : ShellM (List Bytes) := do
  let (_, rest) ← readOptions [] arguments
  pure rest

def number (text : Bytes) : ShellM Nat := do
  match Testing.wholeNumber? text with
  | some n => if 0 ≤ n && n ≤ 2147483647 then pure n.toNat else fail s!"Illegal number: {text}"
  | none => fail s!"Illegal number: {text}"

def singleQuote (text : Bytes) : Bytes :=
  let rec go : Nat → List Char → List Char
    | 0, _ => []
    | fuel + 1, cs =>
      let plain := cs.takeWhile (· != '\'')
      let rest := cs.drop plain.length
      let quotes := rest.takeWhile (· == '\'')
      let after := rest.drop quotes.length
      let front := '\'' :: plain ++ ['\'']
      if quotes.isEmpty then front
      else
        let front := front ++ '"' :: quotes ++ ['"']
        if after.isEmpty then front else front ++ go fuel after
  String.ofList (go (text.length + 1) text.toList)

end PidOne.Machine.Shell
