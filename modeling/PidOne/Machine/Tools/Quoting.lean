import PidOne.Text.Bytes

/-!
# Names in messages

Names as a shell would read them, with quotes where they are needed or always.
-/

namespace PidOne.Machine.Tool

open Text (Bytes)

/-- Characters that mean themselves wherever they stand. -/
def isHarmless (c : Char) : Bool := c.isAlphanum || "%+-./:@]_,".toList.contains c

def isShown (c : Char) : Bool := ' ' ≤ c && c ≤ '~'

def needsQuotes (text : Bytes) (isFirst : Bool) (c : Char) : Bool :=
  if isHarmless c then false
  else if c == '#' || c == '~' then isFirst
  else if c == '\x7b' || c == '\x7d' then text.length = 1
  else true

def escapeOf (c : Char) : List Char :=
  match c with
  | '\x07' => ['\\', 'a']
  | '\x08' => ['\\', 'b']
  | '\x0c' => ['\\', 'f']
  | '\n' => ['\\', 'n']
  | '\r' => ['\\', 'r']
  | '\t' => ['\\', 't']
  | '\x0b' => ['\\', 'v']
  | c =>
    let digits := Nat.toDigits 8 c.toNat
    '\\' :: List.replicate (3 - digits.length) '0' ++ digits

/-- Single quotes around a text; what cannot be shown stands in quotes of another kind. -/
def inQuotes : List Char → Bool → List Char
  | [], _ => ['\'']
  | c :: cs, isEscaping =>
    if isShown c then
      (if isEscaping then ['\'', '\''] else []) ++
        (if c == '\'' then ['\'', '\\', '\'', '\''] else [c]) ++ inQuotes cs false
    else (if isEscaping then [] else ['\'', '$', '\'']) ++ escapeOf c ++ inQuotes cs true

/-- Whether a text with a single quote in it can stand in double quotes instead. -/
def fitsDoubleQuotes (cs : List Char) : Bool :=
  cs.contains '\'' && cs.all fun c =>
    isHarmless c || c == '\'' || c == ' ' ||
      ((c == '#' || c == '~') && cs.head? == some c) ||
      ((c == '\x7b' || c == '\x7d') && cs.length = 1)

def shellQuoted (text : Bytes) : Bytes :=
  let cs := text.toList
  String.ofList (if fitsDoubleQuotes cs then '"' :: cs ++ ['"'] else '\'' :: inQuotes cs false)

/-- A name, in quotes only where it needs them. -/
def nameQuoted (text : Bytes) : Bytes :=
  let cs := text.toList
  let needs := text.isEmpty || (cs.head?).any (needsQuotes text true) ||
    (cs.drop 1).any (needsQuotes text false)
  if needs then shellQuoted text else text

end PidOne.Machine.Tool
