import PidOne.Machine.Printing
import PidOne.Machine.Routine

/-!
# Tests

The values of tests of texts, numbers and files. The shell's own and the program of the same name
read their words in different ways.
-/

namespace PidOne.Machine.Testing

open Text (Bytes)
open Routine (Program)

/-- What a test is made of, with the words that are still to be read. -/
abbrev Tester := StateT (List Bytes) (ExceptT Bytes Program)

def fault {α : Type} (message : Bytes) : Tester α := throw message

def unaryNames : List Bytes :=
  ["-r", "-w", "-x", "-e", "-f", "-d", "-c", "-b", "-p", "-u", "-g", "-k", "-s", "-t", "-z", "-n",
    "-h", "-L", "-O", "-G", "-S"]

def numberNames : List Bytes := ["-eq", "-ne", "-gt", "-ge", "-lt", "-le"]

def fileNames : List Bytes := ["-nt", "-ot", "-ef"]

/-! ## Files -/

def statusOf? (path : Bytes) (follows : Bool := true) : Program (Option Status) := do
  pure (← Program.status path follows).toOption

/-- Whether a file is as an operator asks. The user may read and write everything. -/
def testFile (operator path : Bytes) : Program Bool := do
  let follows := operator != "-h" && operator != "-L"
  match ← statusOf? path follows with
  | none => pure false
  | some status =>
    let hasBit (bit : Nat) : Bool := status.mode &&& bit != 0
    pure (match operator with
      | "-x" => status.kind == .directory || hasBit 73
      | "-f" => status.kind == .regular
      | "-d" => status.kind == .directory
      | "-c" => status.kind == .device
      | "-b" => false
      | "-S" => false
      | "-p" => status.kind == .fifo
      | "-h" => status.kind == .link
      | "-L" => status.kind == .link
      | "-u" => hasBit 2048
      | "-g" => hasBit 1024
      | "-k" => hasBit 512
      | "-s" => status.size > 0
      | _ => true)

def compareFiles (operator left right : Bytes) : Program Bool := do
  let a ← statusOf? left
  let b ← statusOf? right
  pure (match operator, a, b with
    | "-ef", some a, some b => a.identity == b.identity
    | "-nt", some a, some b => a.modified > b.modified
    | "-nt", some _, none => true
    | "-ot", some a, some b => a.modified < b.modified
    | "-ot", none, some _ => true
    | _, _, _ => false)

def compareNumbers (operator : Bytes) (a b : Int) : Bool :=
  match operator with
  | "-eq" => a == b
  | "-ne" => a != b
  | "-gt" => a > b
  | "-ge" => a ≥ b
  | "-lt" => a < b
  | _ => a ≤ b

def compareTexts (operator a b : Bytes) : Bool :=
  match operator with
  | "!=" => a != b
  | "<" => a < b
  | ">" => b < a
  | _ => a == b

def wholeNumber? (text : Bytes) : Option Int :=
  let (isNegative, cs) := splitSign (text.toList.dropWhile isSpace)
  let digits := cs.takeWhile Char.isDigit
  if digits.isEmpty || !(cs.drop digits.length).all isSpace then none
  else
    let n : Int := Text.readDigits 10 digits
    some (if isNegative then -n else n)

/-! ## The shell's own -/

namespace Own

inductive Token
  | finish
  | operand
  | unary
  | binary
  | negation
  | both
  | either
  | opening
  | closing
  deriving DecidableEq, Repr

def binaryNames : List Bytes := ["=", "!=", "<", ">"] ++ numberNames ++ fileNames

def isBinary (word : Bytes) : Bool := binaryNames.contains word

def operator? (word : Bytes) : Option Token :=
  if unaryNames.contains word then some .unary
  else if isBinary word then some .binary
  else match word with
    | "!" => some .negation
    | "-a" => some .both
    | "-o" => some .either
    | "(" => some .opening
    | ")" => some .closing
    | _ => none

/-- Whether what looks like an operator before these words is an operand. -/
def isOperand : List Bytes → Bool
  | [] => true
  | [_] => false
  | word :: _ => isBinary word

def token : List Bytes → Token
  | [] => .finish
  | word :: rest =>
    match operator? word with
    | some .unary => if isOperand rest then .operand else .unary
    | some .opening => if rest.isEmpty then .operand else .opening
    | some t => t
    | none => .operand

def number (text : Bytes) : Tester Int := do
  match wholeNumber? text with
  | some n =>
    if (clampSigned n).2 then fault s!"Illegal number: {text}" else pure n
  | none => fault s!"Illegal number: {text}"

def advance : Tester Unit := modify fun words => words.drop 1

def next : Tester Token := do pure (token ((← get).drop 1))

def binary : Tester Bool := do
  let left := (← get).headD ""
  advance
  let operator := (← get).headD ""
  advance
  match (← get).head? with
  | none => fault s!"{operator}: argument expected"
  | some right =>
    if numberNames.contains operator then
      pure (compareNumbers operator (← number left) (← number right))
    else if fileNames.contains operator then compareFiles operator left right
    else pure (compareTexts operator left right)

def unary : Tester Bool := do
  let operator := (← get).headD ""
  advance
  match (← get).head? with
  | none => fault s!"{operator}: argument expected"
  | some word =>
    match operator with
    | "-z" => pure word.isEmpty
    | "-n" => pure (!word.isEmpty)
    | "-t" =>
      let _ ← number word
      pure false
    | _ => testFile operator word

mutual

/-- Tests joined by `-o`, from a token on. The last word that counts stays where it is. -/
def either : Nat → Token → Bool → Tester Bool
  | 0, _, seen => pure seen
  | fuel + 1, t, seen => do
    let value ← both fuel t true
    if (← next) == .either then
      modify fun words => words.drop 2
      either fuel (token (← get)) (seen || value)
    else pure (seen || value)

def both : Nat → Token → Bool → Tester Bool
  | 0, _, seen => pure seen
  | fuel + 1, t, seen => do
    let value ← negated fuel t
    if (← next) == .both then
      modify fun words => words.drop 2
      both fuel (token (← get)) (seen && value)
    else pure (seen && value)

def negated : Nat → Token → Tester Bool
  | 0, _ => pure false
  | fuel + 1, t => do
    if t != .negation then primary fuel t
    else
      let t ← next
      if t != .finish then advance
      pure (!(← negated fuel t))

def primary : Nat → Token → Tester Bool
  | 0, _ => pure false
  | fuel + 1, t => do
    if t == .finish then pure false
    else if t == .opening then
      advance
      let t := token (← get)
      if t == .closing then pure false
      else
        let value ← either fuel t false
        advance
        if token (← get) == .closing then pure value else fault "closing paren expected"
    else if t == .unary then unary
    else if (← next) == .binary then binary
    else pure (!((← get).headD "").isEmpty)

end

/-- The value of all words, of which few are read by their number. -/
def value : Nat → Tester Bool
  | 0 => pure false
  | fuel + 1 => do
    let words ← get
    let general (t : Token) : Tester Bool := do
      let value ← either (8 * words.length + 8) t false
      match ← get with
      | word :: _ :: _ => fault s!"{word}: unexpected operator"
      | _ => pure value
    let isShort := words.length = 3 || words.length = 4
    if words.isEmpty then pure false
    else if words.length = 3 && isBinary (words.getD 1 "") then general .operand
    else if isShort && words.head? == some "(" && words.getLast? == some ")" then
      set (words.drop 1).dropLast
      general (token (words.drop 1).dropLast)
    else if isShort && words.head? == some "!" then
      set (words.drop 1)
      pure (!(← value fuel))
    else general (token words)

end Own

/-! ## The program -/

namespace Standard

def binaryNames : List Bytes := ["=", "!=", "=="] ++ numberNames ++ fileNames

def isBinary (word : Bytes) : Bool := binaryNames.contains word

section

-- The last one of all words.
variable (last : Bytes)

def beyond {α : Type} : Tester α := fault s!"missing argument after {quoted last}"

def advance (needsMore : Bool) : Tester Unit := do
  modify fun words => words.drop 1
  if needsMore && (← get).isEmpty then beyond last

def number (text : Bytes) : Tester Int := do
  match wholeNumber? text with
  | some n => pure n
  | none => fault s!"invalid integer {quoted text}"

def single : Tester Bool := do
  let word := (← get).headD ""
  advance last false
  pure (!word.isEmpty)

def unary : Tester Bool := do
  let operator := (← get).headD ""
  if !(unaryNames.contains operator || operator == "-N") then
    fault s!"{quoted operator}: unary operator expected"
  advance last true
  let word := (← get).headD ""
  advance last false
  match operator with
  | "-z" => pure word.isEmpty
  | "-n" => pure (!word.isEmpty)
  | "-t" =>
    let _ ← number word
    pure false
  | _ => testFile operator word

def binary : Tester Bool := do
  match ← get with
  | left :: operator :: right :: rest =>
    set rest
    if numberNames.contains operator then
      let a ← number left
      let b ← number right
      pure (compareNumbers operator a b)
    else if fileNames.contains operator then compareFiles operator left right
    else pure (compareTexts operator left right)
  | _ => beyond last

def looksUnary (word : Bytes) : Bool := word.startsWith "-" && word.length = 2

def pair : Tester Bool := do
  let word := (← get).headD ""
  if word == "!" then
    advance last false
    pure (!(← single last))
  else if looksUnary word then unary last
  else beyond last

mutual

def either : Nat → Bool → Tester Bool
  | 0, seen => pure seen
  | fuel + 1, seen => do
    let value ← both fuel true
    if (← get).head? == some "-o" then
      advance last false
      either fuel (seen || value)
    else pure (seen || value)

def both : Nat → Bool → Tester Bool
  | 0, seen => pure seen
  | fuel + 1, seen => do
    let value ← term fuel
    if (← get).head? == some "-a" then
      advance last false
      both fuel (seen && value)
    else pure (seen && value)

def term : Nat → Tester Bool
  | 0 => pure false
  | fuel + 1 => do
    match ← get with
    | [] => beyond last
    | "!" :: _ => do
      advance last true
      pure (!(← term fuel))
    | "(" :: rest => do
      advance last true
      let inside := rest.drop 1 |>.takeWhile (· != ")")
      let count := if inside.length ≥ 4 then rest.length else inside.length + 1
      let value ← counted fuel count
      match (← get).head? with
      | none => fault ("')' expected")
      | some ")" => do
        advance last false
        pure value
      | some word => fault s!"')' expected, found {quoted word}"
    | word :: rest =>
      if rest.length ≥ 2 && isBinary (rest.headD "") then binary last
      else if looksUnary word then unary last
      else single last

def counted : Nat → Nat → Tester Bool
  | 0, _ => pure false
  | fuel + 1, count => do
    let words ← get
    let expression : Tester Bool := if words.isEmpty then beyond last else either fuel false
    match count with
    | 1 => single last
    | 2 => pair last
    | 3 => triple fuel
    | 4 =>
      if words.head? == some "!" then
        advance last true
        pure (!(← triple fuel))
      else if words.head? == some "(" && words[3]? == some ")" then
        advance last false
        let value ← pair last
        advance last false
        pure value
      else expression
    | _ => expression

def triple : Nat → Tester Bool
  | 0 => pure false
  | fuel + 1 => do
    let words ← get
    let middle := words.getD 1 ""
    if isBinary middle then binary last
    else if words.head? == some "!" then
      advance last true
      pure (!(← pair last))
    else if words.head? == some "(" && words[2]? == some ")" then
      advance last false
      let value ← single last
      advance last false
      pure value
    else if middle == "-a" || middle == "-o" then either fuel false
    else fault s!"{quoted middle}: binary operator expected"

end

end

def value : Tester Bool := do
  let words ← get
  if words.isEmpty then pure false else
  let last := words.getLastD ""
  let value ← counted last (4 * words.length + 8) words.length
  match ← get with
  | [] => pure value
  | word :: _ => fault s!"extra argument {quoted word}"

end Standard

def run (provider : Provider) (isBracketed : Bool) (arguments : List Bytes) :
    Program (Except Bytes Bool) := do
  if isBracketed && arguments.getLast? != some "]" then
    pure (.error (match provider with
      | .builtin => "missing ]"
      | .program => "missing ']'"))
  else
    let words := if isBracketed then arguments.dropLast else arguments
    let tester : Tester Bool := match provider with
      | .builtin => Own.value (words.length + 1)
      | .program => Standard.value
    let answer ← (StateT.run tester words).run
    pure (answer.map (·.1))

end PidOne.Machine.Testing
