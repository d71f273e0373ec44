import PidOne.Text.Bytes
import PidOne.Text.Number

/-!
# Real numbers in texts

Numbers with fractions and exponents, as they are read from texts and written with a given number
of places. All calculation is exact; a number is rounded to the bits of its type when it is read.
-/

namespace PidOne.Text

inductive Magnitude
  /-- A significand times a power of two. -/
  | finite (significand : Nat) (exponent : Int)
  | infinite
  | notNumber
  deriving DecidableEq, Repr

structure Real where
  isNegative : Bool
  magnitude : Magnitude
  deriving DecidableEq, Repr

/-- A type of numbers: the bits of a significand, and the least and greatest exponents. -/
structure Precision where
  bits : Nat
  least : Int
  greatest : Int

def doublePrecision : Precision := ⟨53, -1074, 971⟩

def extendedPrecision : Precision := ⟨64, -16445, 16320⟩

def half (numerator denominator : Nat) : Nat :=
  let q := numerator / denominator
  let r := numerator % denominator
  if 2 * r > denominator || (2 * r = denominator && q % 2 = 1) then q + 1 else q

/-- A quotient rounded to a precision, and whether it is out of its range. -/
def Precision.round (p : Precision) (numerator denominator : Nat) : Magnitude × Bool :=
  if numerator = 0 then (.finite 0 0, false) else
  let scale (e : Int) : Nat :=
    if e ≥ 0 then half numerator (denominator <<< e.toNat)
    else half (numerator <<< e.natAbs) denominator
  let guess : Int := (numerator.log2 : Int) - denominator.log2 - p.bits
  let isFit (e : Int) : Bool := scale e < Nat.pow 2 p.bits
  let e := max p.least (if isFit guess then guess else if isFit (guess + 1) then guess + 1
    else guess + 2)
  let m := scale e
  if e > p.greatest then (.infinite, true)
  else (.finite m e, m < Nat.pow 2 (p.bits - 1))

/-- A number's digits, read at the front of a text: numerator, denominator and rest. -/
def decimal? (cs : List Char) : Option (Nat × Nat × List Char) :=
  let whole := cs.takeWhile Char.isDigit
  let (fraction, rest) := match cs.drop whole.length with
    | '.' :: rest => rest.span Char.isDigit
    | rest => ([], rest)
  if whole.isEmpty && fraction.isEmpty then none else
  let rest := if whole.isEmpty && fraction.isEmpty then cs else rest
  let digits := readDigits 10 (whole ++ fraction)
  let (exponent, rest) := exponentOf "eE".toList rest
  let power : Int := max (-20000) (min 20000 exponent) - fraction.length
  if power ≥ 0 then some (digits * Nat.pow 10 power.toNat, 1, rest)
  else some (digits, Nat.pow 10 power.natAbs, rest)
where
  exponentOf (letters cs : List Char) : Int × List Char :=
    match cs with
    | c :: rest =>
      let (isNegative, digits) := match rest with
        | '-' :: rest => (true, rest)
        | '+' :: rest => (false, rest)
        | rest => (false, rest)
      let number := digits.takeWhile Char.isDigit
      if letters.contains c && !number.isEmpty then
        let n : Int := readDigits 10 number
        (if isNegative then -n else n, digits.drop number.length)
      else (0, cs)
    | [] => (0, [])

/-- The same in base sixteen, from behind the mark of the base on. -/
def hexadecimal? (cs : List Char) : Option (Nat × Nat × List Char) :=
  let whole := cs.takeWhile isHex
  let (fraction, rest) := match cs.drop whole.length with
    | '.' :: rest => rest.span isHex
    | rest => ([], rest)
  if whole.isEmpty && fraction.isEmpty then none else
  let digits := readDigits 16 (whole ++ fraction)
  let (exponent, rest) := decimal?.exponentOf "pP".toList rest
  let power : Int := max (-70000) (min 70000 exponent) - 4 * fraction.length
  if power ≥ 0 then some (digits <<< power.toNat, 1, rest)
  else some (digits, 1 <<< power.natAbs, rest)

/-- What is left of a text behind a word, in any case. -/
def after? (word : String) (cs : List Char) : Option (List Char) :=
  if String.ofList ((cs.take word.length).map Char.toLower) == word then
    some (cs.drop word.length)
  else none

/-- The number at the front of a text behind its sign, what follows it, and whether it is out of
range. -/
def magnitude? (p : Precision) (cs : List Char) : Option (Magnitude × List Char × Bool) :=
  let rounded (x : Nat × Nat × List Char) : Magnitude × List Char × Bool :=
    let (m, isOut) := p.round x.1 x.2.1
    (m, x.2.2, isOut)
  match after? "infinity" cs, after? "inf" cs, after? "nan" cs with
  | some rest, _, _ => some (.infinite, rest, false)
  | none, some rest, _ => some (.infinite, rest, false)
  | none, none, some rest => some (.notNumber, rest, false)
  | none, none, none =>
    match cs with
    | '0' :: x :: rest =>
      if x == 'x' || x == 'X' then
        some (((hexadecimal? rest).map rounded).getD (.finite 0 0, x :: rest, false))
      else (decimal? cs).map rounded
    | cs => (decimal? cs).map rounded

/-! ## Writing -/

def pointed (places : Nat) (keepsPoint : Bool) (n : Nat) : List Char :=
  let digits := Nat.toDigits 10 n
  let digits := List.replicate (places + 1 - digits.length) '0' ++ digits
  let whole := digits.take (digits.length - places)
  if places = 0 && !keepsPoint then whole
  else whole ++ '.' :: digits.drop (digits.length - places)

def quotient (significand : Nat) (exponent : Int) : Nat × Nat :=
  if exponent ≥ 0 then (significand <<< exponent.toNat, 1)
  else (significand, 1 <<< exponent.natAbs)

def fixed (places : Nat) (keepsPoint : Bool) (significand : Nat) (exponent : Int) : List Char :=
  let (n, d) := quotient significand exponent
  pointed places keepsPoint (half (n * Nat.pow 10 places) d)

/-- The digits of a number with a place before the point, and its power of ten. -/
def scientificDigits (places : Nat) (significand : Nat) (exponent : Int) : Nat × Int :=
  if significand = 0 then (0, 0) else
  let (n, d) := quotient significand exponent
  let scaled (x : Int) : Nat :=
    let power : Int := places - x
    if power ≥ 0 then half (n * Nat.pow 10 power.toNat) d
    else half n (d * Nat.pow 10 power.natAbs)
  let log : Int := ((n.log2 : Int) - d.log2) * 30103 / 100000
  let rec search : Nat → Int → Int
    | 0, x => x
    | fuel + 1, x => if scaled x < Nat.pow 10 (places + 1) then x else search fuel (x + 1)
  let x := search 8 (log - 2)
  (scaled x, x)

def scientific (places : Nat) (keepsPoint : Bool) (significand : Nat) (exponent : Int) :
    List Char :=
  let (digits, x) := scientificDigits places significand exponent
  let power := Nat.toDigits 10 x.natAbs
  pointed places keepsPoint digits ++ 'e' :: (if x < 0 then '-' else '+') ::
    (List.replicate (2 - power.length) '0' ++ power)

def withoutLastZeros (cs : List Char) : List Char :=
  if cs.contains '.' then
    match cs.reverse.dropWhile (· == '0') with
    | '.' :: rest => rest.reverse
    | rest => rest.reverse
  else cs

/-- The shorter one of both forms, with a number of digits in all. -/
def general (digits : Nat) (keepsZeros : Bool) (significand : Nat) (exponent : Int) : List Char :=
  let digits := max digits 1
  let (_, x) := scientificDigits (digits - 1) significand exponent
  if -4 ≤ x && x < digits then
    let cs := fixed ((digits : Int) - 1 - x).toNat keepsZeros significand exponent
    if keepsZeros then cs else withoutLastZeros cs
  else
    let cs := scientific (digits - 1) keepsZeros significand exponent
    let front := cs.takeWhile (· != 'e')
    (if keepsZeros then front else withoutLastZeros front) ++ cs.drop front.length

/-- In base sixteen; the first digit has some bits, and the others have all. -/
def hexadecimal (p : Precision) (places : Option Nat) (keepsPoint : Bool) (significand : Nat)
    (exponent : Int) : List Char :=
  let leading := if p.bits = 64 then 4 else 1
  let all := (p.bits - leading) / 4
  let shift := if significand = 0 then 0 else p.bits - 1 - significand.log2
  let m := significand <<< shift
  let kept := min (places.getD all) all
  let m := half m (1 <<< (4 * (all - kept)))
  let digits := Nat.toDigits 16 m
  let digits := List.replicate (kept + 1 - digits.length) '0' ++ digits
  let fraction := digits.drop (digits.length - kept)
  let fraction := match places with
    | none => (fraction.reverse.dropWhile (· == '0')).reverse
    | some n => fraction ++ List.replicate (n - kept) '0'
  let power : Int := if significand = 0 then 0 else exponent - shift + 4 * all
  "0x".toList ++ digits.take (digits.length - kept) ++
    (if fraction.isEmpty && !keepsPoint then [] else '.' :: fraction) ++
    'p' :: (if power < 0 then '-' else '+') :: Nat.toDigits 10 power.natAbs

end PidOne.Text
