import PidOne.Text.Number

/-!
# Permissions in words

Changes of permission bits that are given by letters.
-/

namespace PidOne.Machine

def classBits? : Char → Option Nat
  | 'u' => some 0o4700
  | 'g' => some 0o2070
  | 'o' => some 0o1007
  | 'a' => some 0o7777
  | _ => none

def permissionBits? (mode : Nat) (isDirectory : Bool) : Char → Option Nat
  | 'r' => some 0o444
  | 'w' => some 0o222
  | 'x' => some 0o111
  | 'X' => some (if isDirectory || Nat.land mode 0o111 != 0 then 0o111 else 0)
  | 's' => some 0o6000
  | 't' => some 0o1000
  | _ => none

def copiedBits? (mode : Nat) : Char → Option Nat
  | 'u' => some (Nat.land (mode >>> 6) 7 * 0o111)
  | 'g' => some (Nat.land (mode >>> 3) 7 * 0o111)
  | 'o' => some (Nat.land mode 7 * 0o111)
  | _ => none

def without (mode bits : Nat) : Nat := mode - Nat.land mode bits

def changeBits (isDirectory : Bool) (affected : Option Nat) (mask : Nat) :
    Nat → Nat → List Char → Option Nat
  | 0, _, _ => none
  | fuel + 1, mode, cs =>
    match cs with
    | [] => some mode
    | operator :: cs =>
      if !("+-=".toList.contains operator) then none else
      let letters := cs.takeWhile fun c => (permissionBits? mode isDirectory c).isSome
      let (bits, rest) := match letters, cs with
        | [], c :: rest => (match copiedBits? mode c with
          | some bits => (bits, rest)
          | none => (0, cs))
        | letters, cs =>
          (letters.foldl (fun bits c =>
            Nat.lor bits ((permissionBits? mode isDirectory c).getD 0)) 0, cs.drop letters.length)
      let value := Nat.land bits (affected.getD (without 0o7777 mask))
      let kept := if isDirectory then Nat.land mode 0o6000 else 0
      let mode := match operator with
        | '+' => Nat.lor mode value
        | '-' => without mode value
        | _ => Nat.lor (Nat.lor (without mode (affected.getD 0o7777)) kept) value
      changeBits isDirectory affected mask fuel mode rest

/-- The mode that a text of the form `u+x,go=r` makes of another one. Where no class is named, the
masked bits stay as they are. -/
def symbolicMode? (mode : Nat) (isDirectory : Bool) (mask : Nat) (text : String) : Option Nat :=
  (text.splitOn ",").foldl (fun mode clause =>
    mode.bind fun mode =>
      let classes := clause.toList.takeWhile fun c => (classBits? c).isSome
      let affected := if classes.isEmpty then none
        else some (classes.foldl (fun bits c => Nat.lor bits ((classBits? c).getD 0)) 0)
      let rest := clause.toList.drop classes.length
      if rest.isEmpty then none
      else changeBits isDirectory affected mask (clause.length + 1) mode rest) (some mode)

end PidOne.Machine
