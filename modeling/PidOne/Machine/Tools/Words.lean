import PidOne.Machine.Regex
import PidOne.Machine.Testing
import PidOne.Machine.Tools.Input

/-!
# Tools that work on their arguments
-/

namespace PidOne.Machine.Tool

open Text (Bytes)
open Routine (Program)

def succeed : Tool Unit := pure ()

def failAtOnce : Tool Unit := quit 1

def echo (arguments : List Bytes) : Tool Unit := print (echoProgram arguments)

def printf (arguments : List Bytes) : Tool Unit := do
  let arguments := match arguments with
    | "--" :: rest => rest
    | arguments => arguments
  match arguments with
  | [] => missingOperand
  | format :: arguments =>
    let (events, code) := printFormat .program format arguments
    events.forM fun
      | .text text => print text
      | .complaint text => warn text
    setCode code

def test (isBracketed : Bool) (arguments : List Bytes) : Tool Unit := do
  match ← Testing.run .program isBracketed arguments with
  | .ok true => pure ()
  | .ok false => quit 1
  | .error message => die message 2

/-! ## Paths -/

/-- The last component of a path; slashes at the end do not count. -/
def lastComponent (path : Bytes) : Bytes :=
  match (path.splitOn "/").filter (!·.isEmpty) with
  | [] => if path.isEmpty then "" else "/"
  | parts => parts.getLastD ""

def withoutEnding (ending name : Bytes) : Bytes :=
  if name != ending && name.endsWith ending then (name.dropEnd ending.length).toString else name

def basename (arguments : List Bytes) : Tool Unit := do
  let g ← options
    [⟨'a', "multiple", .nothing⟩, ⟨'s', "suffix", .value⟩, ⟨'z', "zero", .nothing⟩] arguments
    false
  let finish := if g.has 'z' then "\x00" else "\n"
  let show_ (ending path : Bytes) : Tool Unit :=
    print (withoutEnding ending (lastComponent path) ++ finish)
  match g.operands with
  | [] => missingOperand
  | first :: rest =>
    if g.has 'a' || g.has 's' then (first :: rest).forM (show_ ((g.value? 's').getD ""))
    else match rest with
      | [] => show_ "" first
      | [ending] => show_ ending first
      | _ :: extra :: _ => extraOperand extra

def parentPath (path : Bytes) : Bytes :=
  let kept := (path.toList.reverse.dropWhile (· == '/')).dropWhile (· != '/')
  let kept := String.ofList (kept.dropWhile (· == '/')).reverse
  if kept.isEmpty then if path.startsWith "/" then "/" else "." else kept

def dirname (arguments : List Bytes) : Tool Unit := do
  let g ← options [⟨'z', "zero", .nothing⟩] arguments
  if g.operands.isEmpty then missingOperand
  g.operands.forM fun a => print (parentPath a ++ if g.has 'z' then "\x00" else "\n")

/-! ## Numbers -/

/-- A decimal number in units of a power of ten. -/
structure Decimal where
  value : Int
  places : Nat

def decimal? (text : Bytes) : Option Decimal :=
  let (isNegative, cs) := splitSign text.toList
  let whole := cs.takeWhile Char.isDigit
  let (fraction, rest) := match cs.drop whole.length with
    | '.' :: rest => rest.span Char.isDigit
    | rest => ([], rest)
  if (whole.isEmpty && fraction.isEmpty) || !rest.isEmpty then none
  else
    let n : Int := Text.readDigits 10 (whole ++ fraction)
    some { value := if isNegative then -n else n, places := fraction.length }

def Decimal.scaled (d : Decimal) (places : Nat) : Int := d.value * Nat.pow 10 (places - d.places)

def decimalText (places : Nat) (value : Int) : Bytes :=
  (if value < 0 then "-" else "") ++ String.ofList (Text.pointed places false value.natAbs)

/-- A text filled with zeros behind its sign. -/
def zeroFilled (width : Nat) (text : Bytes) : Bytes :=
  let (sign, cs) := match text.toList with
    | '-' :: cs => (['-'], cs)
    | cs => ([], cs)
  String.ofList (sign ++ List.replicate (width - text.length) '0' ++ cs)

/-- The numbers from a first one on, as long as they are not beyond the last one. -/
def countNumbers (separator : Bytes) (shown : Int → Bytes) (last increment : Int) :
    Nat → Int → Bool → Tool Unit
  | 0, _, _ => pure ()
  | fuel + 1, value, isFirst => do
    let isBeyond := if increment < 0 then value < last else value > last
    if isBeyond then
      if !isFirst then print "\n"
    else
      print ((if isFirst then "" else separator) ++ shown value)
      countNumbers separator shown last increment fuel (value + increment) false

def isNegativeNumber (a : Bytes) : Bool := a.startsWith "-" && (decimal? a).isSome

def seq (arguments : List Bytes) : Tool Unit := do
  let choices : List Choice :=
    [⟨'f', "format", .value⟩, ⟨'s', "separator", .value⟩, ⟨'w', "equal-width", .nothing⟩]
  let front := arguments.takeWhile (!isNegativeNumber ·)
  let g ← options choices front false
  let operands := g.operands ++ arguments.drop front.length
  let number (text : Bytes) : Tool Decimal :=
    match decimal? text with
    | some d => pure d
    | none => misuse s!"invalid floating point argument: {quoted text}"
  let one : Decimal := ⟨1, 0⟩
  let (first, increment, last) ← match operands with
    | [] => missingOperand
    | [last] => do pure (one, one, ← number last)
    | [first, last] => do pure (← number first, one, ← number last)
    | [first, increment, last] => do
      pure (← number first, ← number increment, ← number last)
    | _ :: _ :: _ :: extra :: _ => extraOperand extra
  if increment.value = 0 then
    let zero := operands.getD 1 ""
    misuse s!"invalid Zero increment value: {quoted zero}"
  let places := max first.places increment.places
  let all := max places last.places
  let cut (value : Int) : Bytes := decimalText all value
  let trimmed (value : Int) : Bytes :=
    decimalText places (value / Nat.pow 10 (all - places))
  let width := max (trimmed (first.scaled all)).length (trimmed (last.scaled all)).length
  let shown (value : Int) : Bytes :=
    match g.value? 'f' with
    | some format => match (printFormat .program format [cut value]).1 with
      | [.text text] => text
      | _ => ""
    | none => if g.has 'w' then zeroFilled width (trimmed value) else trimmed value
  countNumbers ((g.value? 's').getD "\n") shown (last.scaled all) (increment.scaled all) enough
    (first.scaled all) true

def yes (arguments : List Bytes) : Tool Unit := do
  let words := match arguments with
    | "--" :: rest => rest
    | words => words
  let line := (if words.isEmpty then "y" else " ".intercalate words) ++ "\n"
  let block := String.join (List.replicate (4096 / line.length + 1) line)
  let rec go : Nat → Tool Unit
    | 0 => pure ()
    | fuel + 1 => do
      print block
      go fuel
  go enough

/-! ## Expressions -/

inductive Value
  | number (value : Int)
  | text (text : Bytes)

namespace Value

def asText : Value → Bytes
  | .number n => toString n
  | .text s => s

def asNumber? : Value → Option Int
  | .number n => some n
  | .text s =>
    let (isNegative, cs) := match s.toList with
      | '-' :: cs => (true, cs)
      | cs => (false, cs)
    if cs.isEmpty || !cs.all Char.isDigit then none
    else
      let n : Int := Text.readDigits 10 cs
      some (if isNegative then -n else n)

/-- Zero and nothing at all count as false. -/
def isNull (v : Value) : Bool :=
  match v with
  | .number n => n == 0
  | .text s =>
    s.isEmpty ||
      match s.toList with
      | '-' :: cs => !cs.isEmpty && cs.all (· == '0')
      | cs => cs.all (· == '0')

end Value

/-- An expression in progress: the words that are left. -/
abbrev Expr := StateT (List Bytes) Tool

def exprFault {α : Type} (message : Bytes) : Expr α := (die message 2 : Tool α)

def takeWord? (words : List Bytes) : Expr (Option Bytes) := do
  match ← get with
  | word :: rest =>
    if words.contains word then
      set rest
      pure (some word)
    else pure none
  | [] => pure none

/-- A text matched from its front on: what the first group has, or how long the match is. -/
def matchPattern (text pattern : Bytes) : Expr Value := do
  match Regex.ofText false pattern with
  | .error message => exprFault message
  | .ok r =>
    let cs := text.toList
    let found := r.matchAt? { text := cs, ignoresCase := false }
      { offset := 0, before := none, rest := cs }
    let hasGroup := (pattern.splitOn "\\(").length > 1
    pure (match found with
      | none => if hasGroup then .text "" else .number 0
      | some m =>
        if hasGroup then .text (match m.groups.lookup 1 with
          | some (start, finish) => String.ofList ((cs.take finish).drop start)
          | none => "")
        else .number m.finish)

def calculate (operator : Bytes) (a b : Value) : Expr Value := do
  match a.asNumber?, b.asNumber? with
  | some x, some y =>
    match operator with
    | "+" => pure (.number (x + y))
    | "-" => pure (.number (x - y))
    | "*" => pure (.number (x * y))
    | _ =>
      if y = 0 then exprFault "division by zero"
      else pure (.number (if operator == "/" then x.tdiv y else x.tmod y))
  | _, _ => exprFault "non-integer argument"

def compareValues (operator : Bytes) (a b : Value) : Value :=
  let holds (order : Ordering) : Bool :=
    match operator with
    | "<" => order == .lt
    | "<=" => order != .gt
    | "=" => order == .eq
    | "==" => order == .eq
    | "!=" => order != .eq
    | ">=" => order != .lt
    | _ => order == .gt
  let order := match a.asNumber?, b.asNumber? with
    | some x, some y => compare x y
    | _, _ => compare a.asText b.asText
  .number (if holds order then 1 else 0)

mutual

def exprLevel : Nat → Nat → Expr Value
  | 0, _ => pure (.number 0)
  | fuel + 1, level => do
    if level ≥ 6 then exprPrimary fuel
    else
      let first ← exprLevel fuel (level + 1)
      exprRest fuel level first

def exprOperators : List (List Bytes) :=
  [["|"], ["&"], ["<", "<=", "=", "==", "!=", ">=", ">"], ["+", "-"], ["*", "/", "%"], [":"]]

def exprRest : Nat → Nat → Value → Expr Value
  | 0, _, left => pure left
  | fuel + 1, level, left => do
    match ← takeWord? (exprOperators.getD level []) with
    | none => pure left
    | some operator =>
      let right ← exprLevel fuel (level + 1)
      let value ← match level with
        | 0 => pure (if !left.isNull then left else if right.isNull then .number 0 else right)
        | 1 => pure (if left.isNull || right.isNull then .number 0 else left)
        | 2 => pure (compareValues operator left right)
        | 5 => matchPattern left.asText right.asText
        | _ => calculate operator left right
      exprRest fuel level value

def exprPrimary : Nat → Expr Value
  | 0 => pure (.number 0)
  | fuel + 1 => do
    let words ← get
    let missing : Expr Value := do
      exprFault "syntax error: missing argument after the last one"
    match words with
    | [] => missing
    | "(" :: rest => do
      set rest
      let value ← exprLevel fuel 0
      match ← get with
      | ")" :: rest => do
        set rest
        pure value
      | word :: _ => exprFault s!"syntax error: expecting ')' instead of {quoted word}"
      | [] => exprFault "syntax error: expecting ')' after the last argument"
    | "+" :: word :: rest => do
      set rest
      pure (.text word)
    | "length" :: _ :: _ => do
      modify (·.drop 1)
      let v ← exprLevel fuel 6
      pure (.number v.asText.length)
    | "match" :: _ :: _ => do
      modify (·.drop 1)
      let text ← exprLevel fuel 6
      let pattern ← exprLevel fuel 6
      matchPattern text.asText pattern.asText
    | "index" :: _ :: _ => do
      modify (·.drop 1)
      let text ← exprLevel fuel 6
      let wanted ← exprLevel fuel 6
      let place := text.asText.toList.findIdx? wanted.asText.toList.contains
      pure (.number (place.elim 0 (· + 1)))
    | "substr" :: _ :: _ => do
      modify (·.drop 1)
      let text ← exprLevel fuel 6
      let start ← exprLevel fuel 6
      let count ← exprLevel fuel 6
      pure (.text (match start.asNumber?, count.asNumber? with
        | some start, some count =>
          if start ≤ 0 || count ≤ 0 then ""
          else String.ofList ((text.asText.toList.drop (start.toNat - 1)).take count.toNat)
        | _, _ => ""))
    | word :: rest => do
      set rest
      pure (.text word)

end

def expr (arguments : List Bytes) : Tool Unit := do
  let words := match arguments with
    | "--" :: rest => rest
    | words => words
  match words with
  | [] => misuse "missing operand" 2
  | words =>
    let isComplete (words : List Bytes) : Bool :=
      (words.getLast?).all fun word => !(exprOperators.flatten.contains word)
    if words.length > 1 && !isComplete words then
      let last := words.getLastD ""
      die s!"syntax error: missing argument after {quoted last}" 2
    let (value, rest) ← (exprLevel (8 * words.length + 20) 0).run words
    match rest with
    | word :: _ => die s!"syntax error: unexpected argument {quoted word}" 2
    | [] =>
      printLine value.asText
      if value.isNull then quit 1

end PidOne.Machine.Tool
