/-!
# Bytes

Programs read and write bytes. Inside the machine a text has one character for each byte; text of
the outside is encoded on its way in, and what programs have written is decoded on its way out.
-/

namespace PidOne.Text

/-- A text in which each character stands for one byte. -/
abbrev Bytes := String

def byte (n : Nat) : Char := Char.ofNat (n % 256)

def encode (text : String) : Bytes :=
  if text.toList.all (·.toNat < 128) then text
  else String.ofList (text.toUTF8.toList.map fun b => Char.ofNat b.toNat)

/-- The parts of a text between the separators. -/
def split (separator : Char) (text : String) : List String :=
  (text.toList.splitOn separator).map String.ofList

def replacement : Char := Char.ofNat 0xfffd

/-- The number of bytes that follow a first one, and the least and the greatest second one. -/
def following (first : Nat) : Nat × Nat × Nat :=
  if 0xc2 ≤ first && first ≤ 0xdf then (1, 0x80, 0xbf)
  else if first = 0xe0 then (2, 0xa0, 0xbf)
  else if first = 0xed then (2, 0x80, 0x9f)
  else if 0xe1 ≤ first && first ≤ 0xef then (2, 0x80, 0xbf)
  else if first = 0xf0 then (3, 0x90, 0xbf)
  else if first = 0xf4 then (3, 0x80, 0x8f)
  else if 0xf1 ≤ first && first ≤ 0xf3 then (3, 0x80, 0xbf)
  else (0, 0, 0)

def tailOf (count low high : Nat) (bytes : List Nat) : List Nat :=
  match bytes.take count with
  | b :: rest =>
    if low ≤ b && b ≤ high then b :: rest.takeWhile fun b => 0x80 ≤ b && b ≤ 0xbf else []
  | [] => []

def join (first : Nat) (rest : List Nat) : Char :=
  let head := if rest.length = 1 then first % 32 else if rest.length = 2 then first % 16
    else first % 8
  Char.ofNat (rest.foldl (fun n b => 64 * n + b % 64) head)

/-- The characters of bytes. A sequence that breaks off is replaced as one. -/
def decodeFrom : Nat → List Nat → List Char → List Char
  | 0, _, seen => seen.reverse
  | _, [], seen => seen.reverse
  | fuel + 1, first :: rest, seen =>
    if first < 128 then decodeFrom fuel rest (Char.ofNat first :: seen) else
    let (count, low, high) := following first
    let tail := tailOf count low high rest
    let c := if count > 0 && tail.length = count then join first tail else replacement
    decodeFrom fuel (rest.drop tail.length) (c :: seen)

def decode (bytes : Bytes) : String :=
  if bytes.toList.all (·.toNat < 128) then bytes else
  let numbers := bytes.toList.map Char.toNat
  String.ofList (decodeFrom numbers.length numbers [])

end PidOne.Text
