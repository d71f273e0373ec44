import PidOne.Machine.Routine

/-!
# Files

What files hold, and the directories in which they have their names. A file is known by its
number; it may have several names, or none while it is open.
-/

namespace PidOne.Machine

open Text (Bytes)

abbrev Node := Nat

inductive Device
  | null
  | zero
  | full
  | random
  | terminal
  /-- The last PID that was given to a process. -/
  | lastPid
  deriving DecidableEq, Repr

inductive Content
  | regular (text : Bytes) (size : Nat)
  | directory (entries : List (Bytes × Node)) (parent : Node)
  /-- A compiled program, known by its name. -/
  | compiled (name : Bytes)
  | link (target : Bytes)
  | fifo (pipe : Nat)
  | device (device : Device)

structure File where
  content : Content
  /-- The permission bits. -/
  mode : Nat
  links : Nat := 1
  /-- Microseconds. -/
  modified : Nat := 0

instance : Inhabited File := ⟨{ content := .regular "" 0, mode := 0 }⟩

structure Files where
  files : Array File

namespace Files

def root : Node := 0

def processes : Node := 1

def get (f : Files) (n : Node) : File := f.files.getD n default

def modify (f : Files) (n : Node) (change : File → File) : Files :=
  { f with files := f.files.modify n change }

def add (f : Files) (file : File) : Node × Files :=
  (f.files.size, { f with files := f.files.push file })

def entries (f : Files) (n : Node) : List (Bytes × Node) :=
  match (f.get n).content with
  | .directory entries _ => entries
  | _ => []

def child? (f : Files) (n : Node) (name : Bytes) : Option Node := (f.entries n).lookup name

def parent (f : Files) (n : Node) : Node :=
  match (f.get n).content with
  | .directory _ parent => parent
  | _ => n

def isDirectory (f : Files) (n : Node) : Bool :=
  match (f.get n).content with
  | .directory .. => true
  | _ => false

def nameOf? (f : Files) (n : Node) : Option Bytes :=
  (f.entries (f.parent n)).findSome? fun (name, m) => if m == n then some name else none

def pathOf (f : Files) : Nat → Node → Bytes
  | 0, _ => ""
  | depth + 1, n =>
    if n == root then "" else pathOf f depth (f.parent n) ++ "/" ++ (f.nameOf? n).getD ""

def deepest : Nat := 2048

def path (f : Files) (n : Node) : Bytes :=
  let p := pathOf f deepest n
  if p.isEmpty then "/" else p

def setEntries (f : Files) (n : Node) (now : Nat)
    (change : List (Bytes × Node) → List (Bytes × Node)) : Files :=
  f.modify n fun file =>
    match file.content with
    | .directory entries parent =>
      { file with content := .directory (change entries) parent, modified := now }
    | _ => file

def addLinks (f : Files) (n : Node) (change : Nat → Nat) : Files :=
  f.modify n fun file => { file with links := change file.links }

/-- Give a file a name in a directory. A directory has one parent, and that is counted. -/
def insert (f : Files) (directory : Node) (name : Bytes) (n : Node) (now : Nat) : Files :=
  let f := f.setEntries directory now (· ++ [(name, n)])
  if f.isDirectory n then
    (f.modify n fun file =>
      match file.content with
      | .directory entries _ => { file with content := .directory entries directory }
      | _ => file).addLinks directory (· + 1)
  else f

def erase (f : Files) (directory : Node) (name : Bytes) (now : Nat) : Files :=
  match f.child? directory name with
  | none => f
  | some n =>
    let f := f.setEntries directory now (·.filter (·.1 != name))
    if f.isDirectory n then f.addLinks directory (· - 1) else f

def create (f : Files) (directory : Node) (name : Bytes) (content : Content) (mode now : Nat) :
    Node × Files :=
  let links := match content with
    | .directory .. => 2
    | _ => 1
  let (n, f) := f.add { content, mode, modified := now, links }
  (n, f.insert directory name n now)

def readAt (f : Files) (n : Node) (offset count : Nat) : Bytes :=
  match (f.get n).content with
  | .regular text size =>
    if size ≤ offset then ""
    else if offset = 0 && size ≤ count then text
    else String.ofList ((text.toList.drop offset).take count)
  | _ => ""

def setText (f : Files) (n : Node) (text : Bytes) (size now : Nat) : Files :=
  f.modify n fun file => { file with content := .regular text size, modified := now }

def size (f : Files) (n : Node) : Nat :=
  match (f.get n).content with
  | .regular _ size => size
  | .directory .. => 4096
  | .compiled _ => 35000
  | .link target => target.length
  | _ => 0

def text (f : Files) (n : Node) : Bytes := f.readAt n 0 (f.size n)

def zeros (count : Nat) : Bytes := String.ofList (List.replicate count '\x00')

/-- A gap before what is written is filled with zeros. -/
def writeAt (f : Files) (n : Node) (offset : Nat) (written : Bytes) (now : Nat) : Files :=
  let count := written.length
  f.modify n fun file =>
    match file.content with
    | .regular text size =>
      let after :=
        if offset = size then text ++ written
        else if size < offset then text ++ zeros (offset - size) ++ written
        else
          let cs := text.toList
          String.ofList (cs.take offset ++ written.toList ++ cs.drop (offset + count))
      { file with content := .regular after (max size (offset + count)), modified := now }
    | _ => file

def truncate (f : Files) (n : Node) (size now : Nat) : Files :=
  if size = 0 then f.setText n "" 0 now
  else if size ≤ f.size n then f.setText n (f.readAt n 0 size) size now
  else f.setText n (f.text n ++ zeros (size - f.size n)) size now

end Files

def longestName : Nat := 255

def longestPath : Nat := 4095

end PidOne.Machine
