import PidOne.Text.Bytes

/-!
# Shell patterns

The patterns that select names of files, branches of a choice and ends of values. In the text of a
pattern a backslash makes the next character stand for itself.
-/

namespace PidOne.Machine.Shell.Pattern

open Text (Bytes)

/-- Characters compare as signed bytes. -/
def order (c : Char) : Int := if c.toNat < 128 then c.toNat else (c.toNat : Int) - 256

def isPrint (c : Char) : Bool := ' ' ≤ c && c ≤ '~'

def inClass? (name : Bytes) (c : Char) : Option Bool :=
  match name with
  | "alnum" => some c.isAlphanum
  | "alpha" => some c.isAlpha
  | "blank" => some (c == ' ' || c == '\t')
  | "cntrl" => some (c < ' ' || c == '\x7f')
  | "digit" => some c.isDigit
  | "graph" => some (isPrint c && c != ' ')
  | "lower" => some c.isLower
  | "print" => some (isPrint c)
  | "punct" => some (isPrint c && c != ' ' && !c.isAlphanum)
  | "space" => some (c == ' ' || ('\t' ≤ c && c ≤ '\r'))
  | "upper" => some c.isUpper
  | "xdigit" => some (c.isDigit || ('a' ≤ c && c ≤ 'f') || ('A' ≤ c && c ≤ 'F'))
  | _ => none

/-- A named class from behind its opening bracket on: whether it has a character, and the rest. -/
def class? (pattern : List Char) (c : Char) : Option (Bool × List Char) :=
  match pattern with
  | ':' :: rest =>
    let name := rest.takeWhile Char.isAlpha
    match rest.drop name.length with
    | ':' :: ']' :: rest => (inClass? (String.ofList name) c).map (·, rest)
    | _ => none
  | _ => none

/-- Whether the rest of a bracket expression has a character, and what follows the expression. -/
def members (c : Char) : Nat → Bool → List Char → Option (Bool × List Char)
  | 0, _, _ => none
  | fuel + 1, isFound, pattern =>
    let next (found : Bool) (rest : List Char) : Option (Bool × List Char) :=
      match rest with
      | ']' :: rest => some (isFound || found, rest)
      | rest => members c fuel (isFound || found) rest
    let single (low : Char) (rest : List Char) : Option (Bool × List Char) :=
      match rest with
      | '-' :: ']' :: _ => next (c == low) rest
      | '-' :: '\\' :: high :: rest => next (order low ≤ order c && order c ≤ order high) rest
      | '-' :: high :: rest => next (order low ≤ order c && order c ≤ order high) rest
      | rest => next (c == low) rest
    match pattern with
    | [] => none
    | '[' :: rest =>
      match class? rest c with
      | some (found, rest) => next found rest
      | none => single '[' rest
    | '\\' :: low :: rest => single low rest
    | low :: rest => single low rest

def bracket? (pattern : List Char) (c : Char) : Option (Bool × List Char) :=
  let (isInverted, body) := match pattern with
    | '!' :: rest => (true, rest)
    | '^' :: rest => (true, rest)
    | rest => (false, rest)
  (members c (pattern.length + 1) false body).map fun (found, rest) => (found != isInverted, rest)

/-- Whether a text is one that a pattern stands for. There is fuel for the characters of both. -/
def acceptsWith : Nat → List Char → List Char → Bool
  | 0, _, _ => false
  | fuel + 1, pattern, text =>
    match pattern, text with
    | [], text => text.isEmpty
    | '*' :: rest, [] => acceptsWith fuel rest []
    | '*' :: rest, c :: cs =>
      acceptsWith fuel rest (c :: cs) || acceptsWith fuel ('*' :: rest) cs
    | '?' :: rest, _ :: cs => acceptsWith fuel rest cs
    | '\\' :: p :: rest, c :: cs => p == c && acceptsWith fuel rest cs
    | '[' :: rest, c :: cs =>
      match bracket? rest c with
      | some (isFound, rest) => isFound && acceptsWith fuel rest cs
      | none => c == '[' && acceptsWith fuel rest cs
    | p :: rest, c :: cs => p == c && acceptsWith fuel rest cs
    | _ :: _, [] => false

def accepts (pattern text : List Char) : Bool :=
  acceptsWith (pattern.length + text.length + 1) pattern text

def escape (c : Char) : List Char := ['\\', c]

/-- Whether a pattern may stand for more than one text. -/
def isOpen : List Char → Bool
  | [] => false
  | '\\' :: _ :: rest => isOpen rest
  | c :: rest => c == '*' || c == '?' || c == '[' || isOpen rest

def unescape : List Char → List Char
  | [] => []
  | '\\' :: c :: rest => c :: unescape rest
  | c :: rest => c :: unescape rest

/-- Text without the part at its end, or at its front, that a pattern selects: the longest such
part or the shortest. -/
def strip (pattern : List Char) (atEnd longest : Bool) (text : Bytes) : Bytes :=
  let cs := text.toList
  let lengths := List.range (cs.length + 1)
  let lengths := if longest then lengths.reverse else lengths
  match lengths.find? fun n =>
      accepts pattern (if atEnd then cs.drop (cs.length - n) else cs.take n) with
  | some n => String.ofList (if atEnd then cs.take (cs.length - n) else cs.drop n)
  | none => text

def components (pattern : List Char) : List (List Char) :=
  let rec go : List Char → List Char → List (List Char)
    | seen, [] => [seen.reverse]
    | seen, '/' :: rest => seen.reverse :: go [] rest
    | seen, '\\' :: '/' :: rest => seen.reverse :: go [] rest
    | seen, '\\' :: c :: rest => go (c :: '\\' :: seen) rest
    | seen, c :: rest => go (c :: seen) rest
  go [] pattern

end PidOne.Machine.Shell.Pattern
