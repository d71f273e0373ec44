/-!
# Numbers in source text

Numbers whose first digits tell their base.
-/

namespace PidOne.Text

def isOctal (c : Char) : Bool := '0' ≤ c && c ≤ '7'

def isHex (c : Char) : Bool := c.isDigit || ('a' ≤ c && c ≤ 'f') || ('A' ≤ c && c ≤ 'F')

def digitValue (c : Char) : Nat :=
  if c.isDigit then c.toNat - 48 else if c.toNat < 97 then c.toNat - 55 else c.toNat - 87

def readDigits (base : Nat) (digits : List Char) : Nat :=
  digits.foldl (fun n c => base * n + digitValue c) 0

/-- The number at the front of a text, octal after a zero and hexadecimal after `0x`, and what
follows it. -/
def natural? (cs : List Char) : Option (Nat × List Char) :=
  let read (base : Nat) (isDigit : Char → Bool) (cs : List Char) : Option (Nat × List Char) :=
    let digits := cs.takeWhile isDigit
    if digits.isEmpty then none else some (readDigits base digits, cs.drop digits.length)
  match cs with
  | '0' :: x :: rest =>
    if x == 'x' || x == 'X' then (read 16 isHex rest).or (some (0, x :: rest))
    else read 8 isOctal cs
  | cs => read 10 Char.isDigit cs

def octal (width n : Nat) : String :=
  let digits := Nat.toDigits 8 n
  String.ofList (List.replicate (width - digits.length) '0' ++ digits)

end PidOne.Text
