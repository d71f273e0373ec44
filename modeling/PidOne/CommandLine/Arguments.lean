import PidOne.CommandLine.Styling

/-!
# Command-line arguments

Three options that take a value, two flags and the request for help. Arguments are read in order
and the first fault ends the reading; an option that has got its value is checked for repetition
when the next one is met.
-/

namespace PidOne.CommandLine

inductive Valued
  | pre
  | main
  | post
  deriving DecidableEq, Repr

inductive Flag
  | version
  | noSubreaper
  deriving DecidableEq, Repr

def Valued.name : Valued → String
  | .pre => "--pre"
  | .main => "--main"
  | .post => "--post"

def Valued.placeholder : Valued → String
  | .pre => "<PRE>"
  | .main => "<MAIN>"
  | .post => "<POST>"

def Valued.display (option : Valued) : String := option.name ++ " " ++ option.placeholder

def helpName : String := "--help"

def Flag.name : Flag → String
  | .version => "--version"
  | .noSubreaper => "--no-subreaper"

inductive UsageError
  | unexpected (argument : String)
  | unexpectedValue (value option : String)
  | missingValue (option : Valued)
  | repeatedValue (option : Valued)
  | repeatedFlag (flag : Flag)
  deriving DecidableEq, Repr

/-- What a message is about, in its style between quotes. -/
def quote (text : String) : String := "'" ++ styled text ++ "'"

def UsageError.styledMessage : UsageError → String
  | .unexpected argument => s!"error: unexpected argument {quote argument} found"
  | .unexpectedValue value option =>
    s!"error: unexpected value {quote value} for {quote option} found; no more were expected"
  | .missingValue option =>
    s!"error: a value is required for {quote option.display} but none was supplied"
  | .repeatedValue option =>
    s!"error: the argument {quote option.display} cannot be used multiple times"
  | .repeatedFlag flag =>
    s!"error: the argument {quote flag.name} cannot be used multiple times"

def UsageError.message (error : UsageError) : String := plain error.styledMessage

inductive Stop
  | usage (error : UsageError)
  | help
  deriving DecidableEq, Repr

structure Arguments where
  values : List (Valued × String) := []
  flags : List Flag := []
  deriving DecidableEq, Repr

namespace Arguments

def value? (a : Arguments) (option : Valued) : Option String := a.values.lookup option

def has (a : Arguments) (flag : Flag) : Bool := a.flags.contains flag

def give (a : Arguments) (option : Valued) (value : String) : Except Stop Arguments :=
  if (a.value? option).isSome then .error (.usage (.repeatedValue option))
  else .ok { a with values := a.values ++ [(option, value)] }

def raise (a : Arguments) (flag : Flag) : Except Stop Arguments :=
  if a.has flag then .error (.usage (.repeatedFlag flag))
  else .ok { a with flags := a.flags ++ [flag] }

end Arguments

/-- An option met last, before it is certain that it may stand there. -/
inductive Pending
  | none
  | awaiting (option : Valued)
  | valued (option : Valued) (value : String)
  deriving DecidableEq, Repr

def Pending.resolve (a : Arguments) : Pending → Except Stop Arguments
  | .none => .ok a
  | .awaiting option => .error (.usage (.missingValue option))
  | .valued option value => a.give option value

inductive Meaning
  | valued (option : Valued)
  | flag (flag : Flag)
  | help
  deriving DecidableEq, Repr

def meaning? : String → Option Meaning
  | "--pre" => some (.valued .pre)
  | "--main" => some (.valued .main)
  | "--post" => some (.valued .post)
  | "--version" => some (.flag .version)
  | "--no-subreaper" => some (.flag .noSubreaper)
  | "--help" => some .help
  | _ => none

def splitValue (argument : String) : String × Option String :=
  let cs := argument.toList
  let name := String.ofList (cs.takeWhile (· != '='))
  match cs.dropWhile (· != '=') with
  | _ :: value => (name, some (String.ofList value))
  | [] => (name, none)

def readLong (a : Arguments) (pending : Pending) (argument : String) :
    Except Stop (Arguments × Pending) :=
  match meaning? (splitValue argument).1, (splitValue argument).2 with
  | none, _ => .error (.usage (.unexpected (splitValue argument).1))
  | some (.valued option), some value => do
    let a ← pending.resolve a
    let a ← a.give option value
    .ok (a, .none)
  | some (.valued option), none => do
    let a ← pending.resolve a
    .ok (a, .awaiting option)
  | some (.flag flag), none => do
    let a ← pending.resolve a
    let a ← a.raise flag
    .ok (a, .none)
  | some .help, none => do
    let _ ← pending.resolve a
    .error .help
  | some (.flag flag), some value => .error (.usage (.unexpectedValue value flag.name))
  | some .help, some value => .error (.usage (.unexpectedValue value helpName))

/-- One argument that begins with a single dash: letters, of which only the first can matter. -/
def readShort (a : Arguments) (pending : Pending) (argument : String) :
    Except Stop (Arguments × Pending) :=
  match argument.toList with
  | _ :: 'h' :: _ => do
    let _ ← pending.resolve a
    .error .help
  | cs => .error (.usage (.unexpected (String.ofList (cs.take 2))))

/-- Nothing may follow two dashes that stand alone. A lone dash is a value like any other. -/
def readFrom (a : Arguments) (pending : Pending) : List String → Except Stop Arguments
  | [] => pending.resolve a
  | "--" :: [] => pending.resolve a
  | "--" :: argument :: _ => .error (.usage (.unexpected argument))
  | argument :: rest =>
    if argument.startsWith "--" then do
      let (a, pending) ← readLong a pending argument
      readFrom a pending rest
    else if argument.startsWith "-" && argument.length > 1 then do
      let (a, pending) ← readShort a pending argument
      readFrom a pending rest
    else match pending with
      | .awaiting option => readFrom a (.valued option argument) rest
      | _ => .error (.usage (.unexpected argument))

def read (arguments : List String) : Except Stop Arguments := readFrom {} .none arguments

end PidOne.CommandLine
