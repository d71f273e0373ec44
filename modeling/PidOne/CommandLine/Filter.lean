import PidOne.Log
import PidOne.Text.Bytes

/-!
# Log filters

A filter is a text of levels and targets separated by commas. Lines of a level are let through
with those of all levels that are graver.
-/

namespace PidOne.CommandLine

/-- The greatest detail that is logged: zero is nothing. -/
abbrev Detail := Nat

def detail? (text : String) : Option Detail :=
  match text.toLower with
  | "off" => some 0
  | "error" => some Level.error.detail
  | "warn" => some Level.warn.detail
  | "info" => some Level.info.detail
  | "debug" => some Level.debug.detail
  | "trace" => some Level.trace.detail
  | "0" => some 0
  | "1" => some 1
  | "2" => some 2
  | "3" => some 3
  | "4" => some 4
  | "5" => some 5
  | _ => none

def ownTarget : String := "agent_init"

structure Directive where
  target : Option String
  detail : Detail
  deriving DecidableEq, Repr

def isTarget (text : String) : Bool :=
  !text.isEmpty && text.toList.all fun c => c.isAlphanum || c == '_' || c == ':' || c == '-'

def directive? (text : String) : Option Directive :=
  match detail? text with
  | some detail => some ⟨none, detail⟩
  | none =>
    match Text.split '=' text with
    | [target] => if isTarget target then some ⟨some target, Level.trace.detail⟩ else none
    | [target, level] =>
      if !isTarget target then none
      else if level.isEmpty then some ⟨some target, Level.trace.detail⟩
      else (detail? level).map fun detail => ⟨some target, detail⟩
    | _ => none

def parts (text : String) : List String := (Text.split ',' text).filter (!·.isEmpty)

def directives? (text : String) : Option (List Directive) := (parts text).mapM directive?

/-- The detail for the program's own lines: its target's directive goes before the general one,
a later directive before an earlier one. -/
def detailOf (directives : List Directive) : Detail :=
  let last (target : Option String) := directives.reverse.find? (·.target == target)
  match (last (some ownTarget)).or (last none) with
  | some directive => directive.detail
  | none => 0

def upTo (detail : Detail) (line : Line) : Bool := line.level.detail ≤ detail

end PidOne.CommandLine
