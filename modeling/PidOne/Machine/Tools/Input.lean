import PidOne.Machine.Tools.Quoting
import PidOne.Machine.Tools.Tool

/-!
# Input of tools

Reading of descriptors in blocks, in lines and as a whole, and the texts that operands name.
-/

namespace PidOne.Machine.Tool

open Text (Bytes)
open Routine (Program)

/-- More than any input has blocks or lines. -/
def enough : Nat := 1000000000

/-- Read a block; interruptions do not count. -/
def readBlock (d : Descriptor) (count : Nat) : Nat → Tool (Except Errno Bytes)
  | 0 => pure (.ok "")
  | fuel + 1 => do
    match ← Program.read d count with
    | .error number =>
      if number = Errno.interrupted then readBlock d count fuel else pure (.error number)
    | answer => pure answer

def readRest (d : Descriptor) : Nat → Bytes → Tool (Except Errno Bytes)
  | 0, seen => pure (.ok seen)
  | fuel + 1, seen => do
    match ← readBlock d 65536 enough with
    | .ok "" => pure (.ok seen)
    | .ok text => readRest d fuel (seen ++ text)
    | .error number => pure (.error number)

def readWhole (d : Descriptor) : Tool (Except Errno Bytes) := readRest d enough ""

def writeAll (d : Descriptor) (text : Bytes) : Tool (Except Errno Unit) := do
  if text.isEmpty then pure (.ok ())
  else match ← Program.write d text with
    | .ok _ => pure (.ok ())
    | .error number => pure (.error number)

/-- The descriptor of what an operand names; a dash is standard input. -/
def openInput (name : Bytes) : Tool (Except Errno Descriptor) := do
  if name == "-" then pure (.ok 0) else Program.openFile name { reads := true }

def closeInput (name : Bytes) (d : Descriptor) : Tool Unit := do
  if name != "-" then
    let _ ← Program.close d

def withInput (name : Bytes) (work : Descriptor → Tool (Except Errno Unit))
    (code : Nat := 1) : Tool Unit := do
  let shown := nameQuoted name
  match ← openInput name with
  | .error number => fail s!"{shown}: {number.message}" code
  | .ok d =>
    match ← work d with
    | .ok _ => closeInput name d
    | .error number =>
      fail s!"{shown}: {number.message}" code
      closeInput name d

/-- The lines of a text; a last line needs no newline. -/
def linesOf (text : Bytes) : List Bytes :=
  match (text.splitOn "\n").reverse with
  | "" :: rest => rest.reverse
  | ls => ls.reverse

def unlines (ls : List Bytes) : Bytes := String.join (ls.map (· ++ "\n"))

/-- Take lines of a text one after the other, up to where no more are wanted. -/
def stepLines {σ : Type} (step : σ → Bytes → Tool (σ × Bool)) :
    List Bytes → σ → Tool (σ × Bool)
  | [], s => pure (s, true)
  | line :: rest, s => do
    match ← step s line with
    | (s, true) => stepLines step rest s
    | (s, false) => pure (s, false)

/-- Go through the lines of a descriptor as they come in, as long as more are wanted. -/
def eachLineFrom {σ : Type} (d : Descriptor) (step : σ → Bytes → Tool (σ × Bool)) :
    Nat → Bytes → σ → Tool (Except Errno (σ × Bool))
  | 0, _, s => pure (.ok (s, true))
  | fuel + 1, left, s => do
    match ← readBlock d 32768 enough with
    | .error number => pure (.error number)
    | .ok "" =>
      if left.isEmpty then pure (.ok (s, true)) else do
        pure (.ok (← step s left))
    | .ok text =>
      let parts := (left ++ text).splitOn "\n"
      match ← stepLines step parts.dropLast s with
      | (s, true) => eachLineFrom d step fuel (parts.getLastD "") s
      | (s, false) => pure (.ok (s, false))

def eachLine {σ : Type} (d : Descriptor) (s : σ) (step : σ → Bytes → Tool (σ × Bool)) :
    Tool (Except Errno (σ × Bool)) :=
  eachLineFrom d step enough "" s

end PidOne.Machine.Tool
