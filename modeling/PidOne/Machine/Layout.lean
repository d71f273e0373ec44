import PidOne.Text.Real

/-!
# Layout of values

Texts and numbers in fields with a width, a precision and flags.
-/

namespace PidOne.Machine

open Text (Bytes isOctal isHex readDigits)

structure Layout where
  flags : List Char := []
  width : Nat := 0
  precision : Option Nat := none

namespace Layout

def has (l : Layout) (flag : Char) : Bool := l.flags.contains flag

/-- A negative width sets to the left. -/
def withWidth (l : Layout) (width : Int) : Layout :=
  { l with
    width := width.natAbs
    flags := if width < 0 then '-' :: l.flags else l.flags }

def pad (l : Layout) (cs : List Char) : List Char :=
  let blanks := List.replicate (l.width - cs.length) ' '
  if l.has '-' then cs ++ blanks else blanks ++ cs

/-- A field that may be filled with zeros behind what stands in front. -/
def fill (l : Layout) (front cs : List Char) (mayFill : Bool) : List Char :=
  if mayFill && l.has '0' && !l.has '-' then
    front ++ List.replicate (l.width - front.length - cs.length) '0' ++ cs
  else l.pad (front ++ cs)

def text (l : Layout) (cs : List Char) : List Char :=
  l.pad (match l.precision with
    | some n => cs.take n
    | none => cs)

def sign (l : Layout) (isNegative : Bool) : List Char :=
  if isNegative then ['-'] else if l.has '+' then ['+'] else if l.has ' ' then [' '] else []

def digits (l : Layout) (base magnitude : Nat) : List Char :=
  let digits := if magnitude = 0 && l.precision == some 0 then [] else Nat.toDigits base magnitude
  List.replicate (l.precision.getD 0 - digits.length) '0' ++ digits

def signed (l : Layout) (value : Int) : List Char :=
  l.fill (l.sign (value < 0)) (l.digits 10 value.natAbs) l.precision.isNone

def unsigned (l : Layout) (letter : Char) (value : Nat) : List Char :=
  let base := match letter with
    | 'o' => 8
    | 'x' => 16
    | 'X' => 16
    | _ => 10
  let cs := l.digits base value
  let cs := if letter == 'o' && l.has '#' && cs.head? != some '0' then '0' :: cs else cs
  let cs := if letter == 'X' then cs.map Char.toUpper else cs
  let mark := if !l.has '#' || value = 0 then []
    else if letter == 'x' then ['0', 'x'] else if letter == 'X' then ['0', 'X'] else []
  l.fill mark cs l.precision.isNone

def real (l : Layout) (p : Text.Precision) (letter : Char) (value : Text.Real) : List Char :=
  let sign := l.sign value.isNegative
  let upper (cs : List Char) : List Char := if letter.isUpper then cs.map Char.toUpper else cs
  match value.magnitude with
  | .infinite => l.pad (upper (sign ++ ['i', 'n', 'f']))
  | .notNumber => l.pad (upper (sign ++ ['n', 'a', 'n']))
  | .finite m e =>
    let places := l.precision.getD 6
    let keeps := l.has '#'
    match letter.toLower with
    | 'f' => l.fill sign (Text.fixed places keeps m e) true
    | 'e' => l.fill sign (upper (Text.scientific places keeps m e)) true
    | 'g' => l.fill sign (upper (Text.general places keeps m e)) true
    | _ =>
      let cs := upper (Text.hexadecimal p l.precision keeps m e)
      l.fill (sign ++ cs.take 2) (cs.drop 2) true

end Layout

/-! ## Values of arguments -/

def isSpace (c : Char) : Bool := c == ' ' || ('\t' ≤ c && c ≤ '\r')

def splitSign (cs : List Char) : Bool × List Char :=
  match cs with
  | '-' :: rest => (true, rest)
  | '+' :: rest => (false, rest)
  | cs => (false, cs)

/-- The integer at the front of a text in any base, behind white space, and what follows it. -/
def leadingInteger (cs : List Char) : Option (Int × List Char) :=
  let (isNegative, rest) := splitSign (cs.dropWhile isSpace)
  (Text.natural? rest).map fun (n, rest) => (if isNegative then -(n : Int) else n, rest)

def greatestSigned : Int := 9223372036854775807

def greatestUnsigned : Int := 18446744073709551615

/-- What a program takes an integer for that may be out of range. -/
def clampSigned (n : Int) : Int × Bool :=
  if n > greatestSigned then (greatestSigned, true)
  else if n < -greatestSigned - 1 then (-greatestSigned - 1, true)
  else (n, false)

def clampUnsigned (n : Int) : Int × Bool :=
  if n.natAbs > greatestUnsigned.toNat then (greatestUnsigned, true)
  else (if n < 0 then greatestUnsigned + 1 + n else n, false)

end PidOne.Machine
