import PidOne.Text.Bytes

/-!
# Styled text

Usage errors and help are laid out in the styles of a terminal. What they are written to is none,
so every control sequence is left out, be it a style or part of what the user has given.
-/

namespace PidOne.CommandLine

def escape : Char := Char.ofNat 0x1b

def bell : Char := Char.ofNat 7

/-- The two characters that break off a control sequence, CAN and SUB. -/
def isCancelling (c : Char) : Bool := c.toNat == 0x18 || c.toNat == 0x1a

def styled (text : String) : String := s!"{escape}[1m{text}{escape}[0m"

inductive Place
  | ground
  | escaped
  | intermediate
  | control
  | command
  | data
  deriving DecidableEq, Repr

/-- A tab, a newline, a form feed or a carriage return, which lay out text in any place but a
string. -/
def isLayout (c : Char) : Bool :=
  c == '\t' || c == '\n' || c.toNat == 0x0c || c == '\r'

def isShown (c : Char) : Bool := (0x20 ≤ c.toNat && c.toNat ≠ 0x7f) || isLayout c

namespace Place

def shows (place : Place) (c : Char) : Bool :=
  match place with
  | .ground => isShown c
  | .command | .data => false
  | .escaped | .intermediate | .control => isLayout c

def afterEscape (c : Char) : Place :=
  if c = '[' then .control
  else if c = ']' then .command
  else if c = 'P' || c = 'X' || c = '^' || c = '_' then .data
  else if 0x20 ≤ c.toNat && c.toNat ≤ 0x2f then .intermediate
  else if 0x30 ≤ c.toNat && c.toNat ≤ 0x7e then .ground
  else .escaped

/-- The place after a character. The byte 0x9c ends a string of data, even inside a character. -/
def next (place : Place) (c : Char) : Place :=
  if c = escape then .escaped
  else if isCancelling c then .ground
  else match place with
    | .ground => .ground
    | .escaped => afterEscape c
    | .intermediate => if 0x30 ≤ c.toNat && c.toNat ≤ 0x7e then .ground else .intermediate
    | .control => if 0x40 ≤ c.toNat && c.toNat ≤ 0x7e then .ground else .control
    | .command => if c = bell then .ground else .command
    | .data =>
      if 0x80 ≤ c.toNat && (Text.encode c.toString).toList.contains (Text.byte 0x9c) then .ground
      else .data

end Place

/-- What is shown of a text read from a place. Once a character has been shown, those that follow
are shown as well until one that cannot be, and that one is read in the place left before. -/
def plainFrom (place : Place) (showing : Bool) : List Char → List Char
  | [] => []
  | c :: rest =>
    if showing && isShown c then
      c :: plainFrom (if c.toNat < 0x80 then place else .ground) true rest
    else if place.shows c then c :: plainFrom (place.next c) true rest
    else plainFrom (place.next c) false rest

def plain (text : String) : String := String.ofList (plainFrom .ground true text.toList)

end PidOne.CommandLine
