import PidOne.Text.Number

/-!
# Shell arithmetic

Expressions over whole numbers of 64 bits and over names, which can be assigned to. Parameters
that are marked by a dollar sign have been replaced before.
-/

namespace PidOne.Machine.Shell.Arithmetic

inductive Unary
  | minus
  | not
  | complement
  deriving DecidableEq, Repr

inductive Binary
  | times | over | modulo | plus | minus | shiftLeft | shiftRight
  | less | atMost | greater | atLeast | equal | unequal | bitAnd | bitXor | bitOr
  deriving DecidableEq, Repr

inductive Expression
  | number (value : Int)
  | name (name : String)
  | unary (operator : Unary) (argument : Expression)
  | binary (operator : Binary) (left right : Expression)
  | both (left right : Expression)
  | either (left right : Expression)
  | choice (test yes no : Expression)
  | assign (name : String) (value : Expression)
  /-- The name's own value is the left operand. -/
  | update (name : String) (operator : Binary) (value : Expression)
  deriving DecidableEq, Repr

/-! ## Reading -/

inductive Symbol
  | number (value : Int)
  | name (text : String)
  | operator (text : String)
  deriving DecidableEq, Repr

def greatest : Int := 9223372036854775807

/-- The operators, each before those that it begins with. -/
def operators : List String :=
  ["<<=", ">>=", "<<", ">>", "<=", ">=", "==", "!=", "&&", "||", "+=", "-=", "*=", "/=", "%=",
    "&=", "^=", "|="]

/-- Any other character is a symbol by itself. -/
def symbols : Nat → List Char → List Symbol
  | 0, _ => []
  | _, [] => []
  | fuel + 1, c :: cs =>
    let isLetter (c : Char) : Bool := c.isAlphanum || c == '_'
    if " \t\n".toList.contains c then symbols fuel cs
    else if c.isDigit then
      match Text.natural? (c :: cs) with
      | some (n, rest) => .number (min n greatest) :: symbols fuel rest
      | none => symbols fuel cs
    else if isLetter c then
      .name (String.ofList (c :: cs.takeWhile isLetter)) :: symbols fuel (cs.dropWhile isLetter)
    else
      match operators.find? fun o => o.toList.isPrefixOf (c :: cs) with
      | some o => .operator o :: symbols fuel ((c :: cs).drop o.length)
      | none => .operator (toString c) :: symbols fuel cs

def binary? (text : String) : Option ((Expression → Expression → Expression) × Nat) :=
  match text with
  | "||" => some (.either, 1)
  | "&&" => some (.both, 2)
  | "|" => some (.binary .bitOr, 3)
  | "^" => some (.binary .bitXor, 4)
  | "&" => some (.binary .bitAnd, 5)
  | "==" => some (.binary .equal, 6)
  | "!=" => some (.binary .unequal, 6)
  | "<" => some (.binary .less, 7)
  | "<=" => some (.binary .atMost, 7)
  | ">" => some (.binary .greater, 7)
  | ">=" => some (.binary .atLeast, 7)
  | "<<" => some (.binary .shiftLeft, 8)
  | ">>" => some (.binary .shiftRight, 8)
  | "+" => some (.binary .plus, 9)
  | "-" => some (.binary .minus, 9)
  | "*" => some (.binary .times, 10)
  | "/" => some (.binary .over, 10)
  | "%" => some (.binary .modulo, 10)
  | _ => none

def assignment? (text : String) : Option (String → Expression → Expression) :=
  match text with
  | "=" => some .assign
  | "<<=" => some (.update · .shiftLeft)
  | ">>=" => some (.update · .shiftRight)
  | "+=" => some (.update · .plus)
  | "-=" => some (.update · .minus)
  | "*=" => some (.update · .times)
  | "/=" => some (.update · .over)
  | "%=" => some (.update · .modulo)
  | "&=" => some (.update · .bitAnd)
  | "^=" => some (.update · .bitXor)
  | "|=" => some (.update · .bitOr)
  | _ => none

/-- An operator as the name's assignment, when the first two symbols are that. -/
def assigned? : List Symbol → Option ((Expression → Expression) × List Symbol)
  | .name x :: .operator o :: rest => (assignment? o).map fun make => (make x, rest)
  | _ => none

mutual

def expression : Nat → List Symbol → Except String (Expression × List Symbol)
  | 0, _ => .error "expecting primary"
  | fuel + 1, ss =>
    match assigned? ss with
    | some (make, rest) => do
      let (value, rest) ← expression fuel rest
      .ok (make value, rest)
    | none => conditional fuel ss

def conditional : Nat → List Symbol → Except String (Expression × List Symbol)
  | 0, _ => .error "expecting primary"
  | fuel + 1, ss => do
    let (test, rest) ← operand fuel ss
    let (test, rest) ← operation fuel 1 test rest
    match rest with
    | .operator "?" :: rest =>
      let (yes, rest) ← expression fuel rest
      match rest with
      | .operator ":" :: rest =>
        let (no, rest) ← conditional fuel rest
        .ok (.choice test yes no, rest)
      | _ => .error "expecting ':'"
    | rest => .ok (test, rest)

def operation : Nat → Nat → Expression → List Symbol → Except String (Expression × List Symbol)
  | 0, _, _, _ => .error "expecting primary"
  | fuel + 1, least, left, ss =>
    match ss with
    | .operator o :: rest =>
      match binary? o with
      | some (make, strength) =>
        if strength < least then .ok (left, ss) else do
        let (right, rest) ← operand fuel rest
        let (right, rest) ← operation fuel (strength + 1) right rest
        operation fuel least (make left right) rest
      | none => .ok (left, ss)
    | ss => .ok (left, ss)

def operand : Nat → List Symbol → Except String (Expression × List Symbol)
  | 0, _ => .error "expecting primary"
  | fuel + 1, ss =>
    match ss with
    | .number n :: rest => .ok (.number n, rest)
    | .name x :: rest => .ok (.name x, rest)
    | .operator "+" :: rest => operand fuel rest
    | .operator "-" :: rest => do
      let (e, rest) ← operand fuel rest
      .ok (.unary .minus e, rest)
    | .operator "!" :: rest => do
      let (e, rest) ← operand fuel rest
      .ok (.unary .not e, rest)
    | .operator "~" :: rest => do
      let (e, rest) ← operand fuel rest
      .ok (.unary .complement e, rest)
    | .operator "(" :: rest => do
      let (e, rest) ← expression fuel rest
      match rest with
      | .operator ")" :: rest => .ok (e, rest)
      | _ => .error "expecting ')'"
    | _ => .error "expecting primary"

end

def read (text : String) : Except String Expression := do
  let ss := symbols text.length text.toList
  let (e, rest) ← expression (4 * ss.length + 4) ss
  if rest.isEmpty then .ok e else .error "expecting EOF"

/-! ## Values -/

abbrev Values := String → Option String

inductive Fault
  | notNumber (text : String)
  | divisionByZero
  deriving DecidableEq, Repr

/-- The number among those of 64 bits that is the same but for multiples of two to the 64. -/
def wrap (n : Int) : Int := n.bmod 18446744073709551616

def truth (b : Bool) : Int := if b then 1 else 0

/-- A number as the value of a name; an empty one is zero. -/
def number? (text : String) : Option Int :=
  let isSpace (c : Char) : Bool := " \t\n".toList.contains c
  let (isNegative, cs) := match text.toList.dropWhile isSpace with
    | '-' :: cs => (true, cs)
    | '+' :: cs => (false, cs)
    | cs => (false, cs)
  if cs.isEmpty && !isNegative then some 0 else
  match Text.natural? cs with
  | some (n, rest) =>
    if rest.all isSpace then
      some (if isNegative then max (-(n : Int)) (-greatest - 1) else min n greatest)
    else none
  | none => none

def Unary.apply (a : Int) : Unary → Int
  | .minus => wrap (-a)
  | .not => truth (a == 0)
  | .complement => -a - 1

def bits (n : Int) : BitVec 64 := BitVec.ofInt 64 n

def Binary.apply (a b : Int) : Binary → Except Fault Int
  | .times => .ok (wrap (a * b))
  | .over => if b = 0 then .error .divisionByZero else .ok (wrap (a.tdiv b))
  | .modulo => if b = 0 then .error .divisionByZero else .ok (a.tmod b)
  | .plus => .ok (wrap (a + b))
  | .minus => .ok (wrap (a - b))
  | .shiftLeft => .ok ((bits a).shiftLeft (b.emod 64).toNat).toInt
  | .shiftRight => .ok ((bits a).sshiftRight (b.emod 64).toNat).toInt
  | .less => .ok (truth (a < b))
  | .atMost => .ok (truth (a ≤ b))
  | .greater => .ok (truth (a > b))
  | .atLeast => .ok (truth (a ≥ b))
  | .equal => .ok (truth (a == b))
  | .unequal => .ok (truth (a != b))
  | .bitAnd => .ok ((bits a).and (bits b)).toInt
  | .bitXor => .ok ((bits a).xor (bits b)).toInt
  | .bitOr => .ok ((bits a).or (bits b)).toInt

def Values.number (values : Values) (name : String) : Except Fault Int :=
  let text := (values name).getD ""
  match number? text with
  | some n => .ok n
  | none => .error (.notNumber text)

/-- The value of an expression, and the assignments that were made, the last one first. Of two
alternatives only the one that counts is evaluated. -/
def Expression.eval (values : Values) :
    Expression → Except Fault (Int × List (String × Int))
  | .number n => .ok (n, [])
  | .name x => do .ok (← values.number x, [])
  | .unary o e => do
    let (a, made) ← e.eval values
    .ok (o.apply a, made)
  | .binary o e f => do
    let (a, made) ← e.eval values
    let (b, later) ← f.eval (extend values made)
    .ok (← o.apply a b, later ++ made)
  | .both e f => do
    let (a, made) ← e.eval values
    if a = 0 then .ok (0, made) else
    let (b, later) ← f.eval (extend values made)
    .ok (truth (b != 0), later ++ made)
  | .either e f => do
    let (a, made) ← e.eval values
    if a ≠ 0 then .ok (1, made) else
    let (b, later) ← f.eval (extend values made)
    .ok (truth (b != 0), later ++ made)
  | .choice test yes no => do
    let (a, made) ← test.eval values
    let (b, later) ← if a ≠ 0 then yes.eval (extend values made) else no.eval (extend values made)
    .ok (b, later ++ made)
  | .assign x e => do
    let (a, made) ← e.eval values
    .ok (a, (x, a) :: made)
  | .update x o e => do
    let (b, made) ← e.eval values
    let a ← o.apply (← (extend values made).number x) b
    .ok (a, (x, a) :: made)
where
  extend (values : Values) (made : List (String × Int)) : Values :=
    fun x => ((made.lookup x).map toString).or (values x)

def run (values : Values) (text : String) : Except String (Int × List (String × Int)) :=
  let complain (reason : String) : String :=
    "arithmetic expression: " ++ reason ++ ": \"" ++ text ++ "\""
  match read text with
  | .error reason => .error (complain reason)
  | .ok e =>
    match e.eval values with
    | .ok result => .ok result
    | .error (.notNumber value) => .error ("Illegal number: " ++ value)
    | .error .divisionByZero => .error (complain "division by zero")

end PidOne.Machine.Shell.Arithmetic
