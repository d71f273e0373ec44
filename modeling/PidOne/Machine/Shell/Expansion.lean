import PidOne.Machine.Shell.Arithmetic
import PidOne.Machine.Shell.Pattern
import PidOne.Machine.Shell.Signals

/-!
# Expansion of words

The parts of a word become pieces, from which fields are made: values of unquoted expansions are
split at separators, and patterns become the names that they select.
-/

namespace PidOne.Machine.Shell

open Text (Bytes)
open Routine (Program)

inductive Piece
  /-- A character, whether it is quoted, and whether fields are split at it. -/
  | char (char : Char) (quoted splits : Bool)
  /-- Quotes, which make a field even if there is nothing between them. -/
  | quotes
  /-- The end of a positional parameter before the next one. -/
  | boundary (quoted : Bool)

structure Manner where
  isFull : Bool
  isValue : Bool := false
  /-- Whether literal text is split too. -/
  isOperand : Bool := false

def separators (s : Shell) : List Char := ((s.get? "IFS").getD " \t\n").toList

def isBlankSeparator (c : Char) : Bool := c == ' ' || c == '\t' || c == '\n'

/-- The letters of the options that there are, in the order in which they are shown. -/
def optionLetters : List Char := "pubaCEVvxsnmiIfe".toList

def parameter? (s : Shell) (name : Bytes) : Option Bytes :=
  match name with
  | "#" => some (toString s.positional.length)
  | "?" => some (toString s.status)
  | "$" => some (toString s.pid)
  | "!" => s.background.map toString
  | "-" => some (String.ofList (optionLetters.filter s.options.contains))
  | "0" => some s.name
  | name =>
    if name.toList.head?.any Char.isDigit then
      match name.toNat? with
      | some 0 => some s.name
      | some n => s.positional[n - 1]?
      | none => none
    else s.get? name

def isAll (name : Bytes) : Bool := name == "@" || name == "*"

/-- The positional parameters joined where no fields are made. -/
def joinedParameters (s : Shell) : Bytes :=
  let separator := match s.get? "IFS" with
    | some text => String.ofList (text.toList.take 1)
    | none => " "
  separator.intercalate s.positional

def parameterText? (s : Shell) (name : Bytes) : Option Bytes :=
  if isAll name then some s.joinedParameters else s.parameter? name

def isSet (s : Shell) (name : Bytes) (evenEmpty : Bool) : Bool :=
  if isAll name then !(evenEmpty && s.joinedParameters.isEmpty)
  else (s.parameter? name).any fun text => !(evenEmpty && text.isEmpty)

def piecesOf (text : Bytes) (quoted splits : Bool) : List Piece :=
  text.toList.map fun c => .char c quoted splits

def valuePieces (s : Shell) (manner : Manner) (name : Bytes) (quoted : Bool) : List Piece :=
  if isAll name && manner.isFull && (name == "@" || !quoted) then
    let each := s.positional.map fun text =>
      if quoted then .quotes :: piecesOf text true false else piecesOf text false true
    (each.intersperse [.boundary quoted]).flatten
  else piecesOf ((s.parameterText? name).getD "") quoted (!quoted)

/-- The text of pieces where no fields are made. -/
def textOf (pieces : List Piece) : Bytes :=
  String.ofList (pieces.filterMap fun
    | .char c _ _ => some c
    | .quotes => none
    | .boundary _ => some ' ')

def patternOf (pieces : List Piece) : List Char :=
  pieces.flatMap fun
    | .char c true _ => Pattern.escape c
    | .char c false _ => [c]
    | .quotes => []
    | .boundary _ => [' ']

/-- The directory that stands for a tilde and the name of a user. -/
def home? (s : Shell) (user : Bytes) : Option Bytes :=
  if user.isEmpty then s.get? "HOME" else if user == "root" then some "/root" else none

/-- Replace a tilde at the front of a text, and in a value also behind its colons. -/
def tilde (s : Shell) (isValue : Bool) (text : Bytes) : List Piece :=
  let isEnd (c : Char) : Bool := c == '/' || (isValue && c == ':')
  let one (cs : List Char) : List Piece :=
    match cs with
    | '~' :: rest =>
      let user := rest.takeWhile (!isEnd ·)
      match s.home? (String.ofList user) with
      | some directory =>
        piecesOf directory true false ++
          (rest.drop user.length).map fun c => .char c false false
      | none => cs.map fun c => .char c false false
    | cs => cs.map fun c => .char c false false
  if isValue then
    ((text.splitOn ":").map fun t => one t.toList).intersperse [.char ':' false false] |>.flatten
  else one text.toList

section

-- What runs the commands of a substitution and answers with what they have written.
variable (substitute : Option Tree → ShellM Bytes)

def withoutLastNewlines (text : Bytes) : Bytes :=
  if text.endsWith "\n" then String.ofList (text.toList.reverse.dropWhile (· == '\n')).reverse
  else text

def missing {α : Type} (name : Bytes) : ShellM α := fail s!"{name}: parameter not set"

def demand {α : Type} (name message : Bytes) (hasMessage evenEmpty : Bool) : ShellM α :=
  fail <| name ++ ": " ++ if hasMessage then message
    else if evenEmpty then "parameter not set or null" else "parameter not set"

def calculate (text : Bytes) : ShellM Bytes := do
  let s ← get
  match Arithmetic.run (fun name => s.get? name) text with
  | .error message => fail message
  | .ok (value, made) =>
    made.reverse.forM fun (name, value) => assign name (some (toString value))
    pure (toString value)

mutual

def expandParts (manner : Manner) (isFirst : Bool) : List Part → ShellM (List Piece)
  | [] => pure []
  | part :: rest => do
    let pieces ← expandPart manner isFirst part
    let more ← expandParts manner false rest
    pure (pieces ++ more)

def expandPart (manner : Manner) (isFirst : Bool) : Part → ShellM (List Piece)
  | .text text quoted => do
    if quoted then
      pure (if text.isEmpty then [.quotes] else .quotes :: piecesOf text true false)
    else if manner.isOperand then pure (piecesOf text false true)
    else if (isFirst || manner.isValue) && text.contains '~' then
      pure (tilde (← get) manner.isValue text)
    else pure (piecesOf text false false)
  | .arithmetic parts quoted => do
    let pieces ← expandParts { isFull := false } false parts
    let text ← calculate (textOf pieces)
    pure (piecesOf text quoted (!quoted))
  | .command tree quoted => do
    let text ← substitute tree
    let text := (withoutLastNewlines text).toList.filter (· != '\x00')
    pure (text.map fun c => .char c quoted (!quoted))
  | .parameter name use operand quoted => do
    let s ← get
    let inside : Manner := { manner with isOperand := manner.isFull && !quoted, isValue := false }
    match use with
    | .bad => fail "Bad substitution"
    | .value =>
      if (s.parameterText? name).isNone && s.has 'u' then missing name
      else pure (s.valuePieces manner name quoted)
    | .length =>
      match s.parameterText? name with
      | none => if s.has 'u' then missing name else pure (piecesOf "0" quoted (!quoted))
      | some text => pure (piecesOf (toString text.length) quoted (!quoted))
    | .default evenEmpty =>
      if s.isSet name evenEmpty then pure (s.valuePieces manner name quoted)
      else expandParts inside true operand
    | .alternative evenEmpty =>
      if s.isSet name evenEmpty then expandParts inside true operand else pure []
    | .assign evenEmpty =>
      if s.isSet name evenEmpty then pure (s.valuePieces manner name quoted)
      else
        let text := textOf (← expandParts { isFull := false } true operand)
        if !isName name then fail s!"{name}: bad variable name"
        assign name (some text)
        pure ((← get).valuePieces manner name quoted)
    | .demand evenEmpty =>
      if s.isSet name evenEmpty then pure (s.valuePieces manner name quoted)
      else
        let text := textOf (← expandParts { isFull := false } true operand)
        demand name text (!operand.isEmpty) evenEmpty
    | .strip atEnd longest =>
      match s.parameterText? name with
      | none => if s.has 'u' then missing name else pure []
      | some text =>
        let pattern := patternOf (← expandParts { isFull := false } true operand)
        pure (piecesOf (Pattern.strip pattern atEnd longest text) quoted (!quoted))

end

/-! ## Fields -/

/-- Fields that are complete, the last one first, and the one in progress with its pieces in
reverse. -/
structure Fields where
  complete : List (List Piece) := []
  current : Option (List Piece) := none
  /-- Whether a blank separator has just ended a field, so that another one may still follow. -/
  mayFollow : Bool := false

namespace Fields

def add (f : Fields) (piece : Piece) : Fields :=
  { f with current := some (piece :: f.current.getD []), mayFollow := false }

def finish (f : Fields) (mayFollow : Bool) : Fields :=
  { complete := (f.current.getD []).reverse :: f.complete, current := none, mayFollow }

def step (separators : List Char) (f : Fields) : Piece → Fields
  | .char c quoted splits =>
    if splits && separators.contains c then
      if isBlankSeparator c then
        if f.current.isSome then f.finish true else f
      else if f.current.isNone && f.mayFollow then { f with mayFollow := false }
      else f.finish false
    else f.add (.char c quoted splits)
  | .quotes => f.add .quotes
  | .boundary true => { f.finish false with mayFollow := false }
  | .boundary false => if f.current.isSome then f.finish true else f

def ofPieces (separators : List Char) (pieces : List Piece) : List (List Piece) :=
  let f := pieces.foldl (step separators) {}
  let f := if f.current.isSome then f.finish false else f
  f.complete.reverse

end Fields

/-- The paths below a directory that the components of a pattern select. A dot at the front of a
name has to be given. -/
def pathsBelow (directory : Bytes) : List (List Char) → ShellM (List Bytes)
  | [] => pure []
  | c :: rest => do
    let last := rest.isEmpty
    let names ← if Pattern.isOpen c then do
        match ← Program.list (if directory.isEmpty then "." else directory) with
        | .error _ => pure []
        | .ok names =>
          let names := if c.head? == some '.' then [".", ".."] ++ names else names
          pure (names.filter fun name =>
            (!name.startsWith "." || c.head? == some '.' || c.take 2 == ['\\', '.']) &&
              Pattern.accepts c name.toList)
      else pure [String.ofList (Pattern.unescape c)]
    if last then
      if Pattern.isOpen c then pure (names.map (directory ++ ·))
      else
        let paths := names.map (directory ++ ·)
        paths.filterM fun path => do
          match ← Program.status path false with
          | .ok _ => pure true
          | .error _ => pure false
    else
      let found ← names.mapM fun name => pathsBelow (directory ++ name ++ "/") rest
      pure found.flatten

/-- A field as it is, or the paths that it selects as a pattern. -/
def select (field : List Piece) : ShellM (List Bytes) := do
  let pattern := patternOf field
  if (← get).has 'f' || !Pattern.isOpen pattern then return [textOf field]
  let paths ← pathsBelow "" (Pattern.components pattern)
  pure (if paths.isEmpty then [textOf field] else paths.mergeSort fun a b => !(b < a))

def fields (w : Word) : ShellM (List Bytes) := do
  let pieces ← expandParts substitute { isFull := true } true w
  let s ← get
  let found ← (Fields.ofPieces s.separators pieces).mapM select
  pure found.flatten

def joined (w : Word) (isValue : Bool := false) : ShellM Bytes := do
  pure (textOf (← expandParts substitute { isFull := false, isValue } true w))

def pattern (w : Word) : ShellM (List Char) := do
  pure (patternOf (← expandParts substitute { isFull := false } true w))

end

end PidOne.Machine.Shell
