import PidOne.Machine.Description

/-!
# Paths

Where a path leads. Beside the files in their directories there are the places below the directory
of the processes, which are made up from what the processes are.
-/

namespace PidOne.Machine

open Text (Bytes)

inductive Place
  | node (node : Node)
  | process (pid : Pid)
  | description (pid : Pid) (name : Bytes)
  | descriptors (pid : Pid)
  | held (opened : Nat)

/-- What stands under a name. A jump leads to its place without a path. -/
inductive Entry
  | place (place : Place)
  | link (target : Bytes)
  | jump (place : Place) (text : Bytes)

/-- The directory and the name that a path ends with, and what stands there. -/
structure Location where
  directory : Place
  name : Bytes
  found? : Option Entry
  /-- Whether the path asks for a directory. -/
  isSlashed : Bool := false

def pathOfFile (f : Files) (n : Node) : Bytes :=
  if f.isDirectory n then f.path n else
  let named := (List.range f.files.size).findSome? fun d =>
    (f.entries d).findSome? fun (name, m) => if m == n then some (d, name) else none
  match named with
  | some (d, name) => (if d == Files.root then "" else f.path d) ++ "/" ++ name
  | none => "/tmp/#" ++ toString n ++ " (deleted)"

def Opened.shown (m : Machine) (o : Opened) : Bytes :=
  match o.channel with
  | .file n => pathOfFile m.files n
  | .snapshot _ => "/proc"
  | .pipe n => s!"pipe:[{n}]"

def number? (name : Bytes) : Option Nat :=
  if name.isEmpty || (name.length > 1 && name.startsWith "0") then none
  else if name.toList.all Char.isDigit then name.toNat? else none

def entryOfFile (f : Files) (n : Node) : Entry :=
  match (f.get n).content with
  | .link target => .link target
  | _ => .place (.node n)

def entryAt (m : Machine) (caller : Process) (directory : Place) (name : Bytes) :
    Except Errno (Option Entry) :=
  if name.length > longestName then .error Errno.nameTooLong else
  match directory with
  | .node n =>
    if !m.files.isDirectory n then .error Errno.notDirectory
    else if n == Files.processes then
      match name, number? name with
      | "self", _ => .ok (some (.link (toString caller.pid)))
      | "thread-self", _ => .ok (some (.link (toString caller.pid)))
      | _, some pid => .ok (if m.exists? pid then some (.place (.process pid)) else none)
      | _, none => .ok ((m.files.child? n name).map (entryOfFile m.files))
    else .ok ((m.files.child? n name).map (entryOfFile m.files))
  | .process pid =>
    match m.get? pid with
    | none => .ok none
    | some p =>
      match name with
      | "fd" => .ok (some (.place (.descriptors pid)))
      | "cwd" => .ok (some (.jump (.node p.directory) (m.files.path p.directory)))
      | "root" => .ok (some (.jump (.node Files.root) "/"))
      | "exe" => .ok (some (.link ("/usr/bin/" ++ p.name)))
      | name => .ok ((p.description? name).map fun _ => .place (.description pid name))
  | .descriptors pid =>
    .ok do
      let p ← m.get? pid
      let o ← m.openedBy? p (← number? name)
      some (.jump (match o.channel with
        | .file n => if m.files.isDirectory n then .node n else .held o.number
        | _ => .held o.number) (o.shown m))
  | .description .. => .error Errno.notDirectory
  | .held _ => .error Errno.notDirectory

def Place.parent (m : Machine) : Place → Place
  | .node n => .node (m.files.parent n)
  | .process _ => .node Files.processes
  | .descriptors pid => .process pid
  | place => place

def Place.isDirectory (m : Machine) : Place → Bool
  | .node n => m.files.isDirectory n
  | .process _ => true
  | .descriptors _ => true
  | _ => false

def components (path : Bytes) : List Bytes := (Text.split '/' path).filter (· != "")

def Place.start (caller : Process) (path : Bytes) : Place :=
  if path.startsWith "/" then .node Files.root else .node caller.directory

/-- Follow components from a directory. A link in the middle is always followed, one at the end
only when asked for; there is fuel for as many links and components as a path may have. -/
def walk (m : Machine) (caller : Process) (follows : Bool) :
    Nat → Nat → Place → List Bytes → Except Errno Location
  | 0, _, _, _ => .error Errno.tooManyLinks
  | _, 0, _, _ => .error Errno.tooManyLinks
  | _ + 1, _, here, [] => .ok { directory := here, name := ".", found? := some (.place here) }
  | fuel + 1, links + 1, here, c :: rest =>
    if !here.isDirectory m then .error Errno.notDirectory
    else if c == "." || c == ".." then
      let there := if c == "." then here else here.parent m
      if rest.isEmpty then
        .ok { directory := there, name := c, found? := some (.place there) }
      else walk m caller follows fuel (links + 1) there rest
    else do
      let found? ← entryAt m caller here c
      match found?, rest with
      | some (.link target), rest =>
        if rest.isEmpty && !follows then .ok { directory := here, name := c, found? }
        else
          let start := if target.startsWith "/" then Place.node Files.root else here
          walk m caller follows fuel links start (components target ++ rest)
      | some (.jump place _), rest =>
        if rest.isEmpty then
          .ok { directory := here, name := c
                found? := if follows then some (.place place) else found? }
        else walk m caller follows fuel (links + 1) place rest
      | some (.place place), rest =>
        if rest.isEmpty then .ok { directory := here, name := c, found? }
        else walk m caller follows fuel (links + 1) place rest
      | none, [] => .ok { directory := here, name := c, found? := none }
      | none, _ => .error Errno.noEntry

/-- The number of links that are followed before the kernel gives up. -/
def mostLinks : Nat := 41

def locate (m : Machine) (caller : Process) (path : Bytes) (follows : Bool) :
    Except Errno Location := do
  if path.isEmpty then throw Errno.noEntry
  if path.length > longestPath then throw Errno.nameTooLong
  let isSlashed := path.endsWith "/"
  let l ← walk m caller (follows || isSlashed) (longestPath * mostLinks) mostLinks
    (.start caller path) (components path)
  match isSlashed, l.found? with
  | true, some (.place place) =>
    if place.isDirectory m then .ok { l with isSlashed } else .error Errno.notDirectory
  | _, _ => .ok { l with isSlashed }

def find (m : Machine) (caller : Process) (path : Bytes) : Except Errno Place := do
  match (← locate m caller path true).found? with
  | some (.place place) => .ok place
  | _ => .error Errno.noEntry

/-! ## What stands at a place -/

def contentKind : Content → Kind
  | .regular .. => .regular
  | .directory .. => .directory
  | .compiled _ => .regular
  | .link _ => .link
  | .fifo _ => .fifo
  | .device .lastPid => .regular
  | .device _ => .device

def statusOfNode (f : Files) (n : Node) : Status :=
  let file := f.get n
  { kind := contentKind file.content, mode := file.mode, size := f.size n, identity := (1, n)
    links := file.links, modified := file.modified }

def statusOfOpened (m : Machine) (o : Opened) : Status :=
  match o.channel with
  | .file n => statusOfNode m.files n
  | .snapshot _ => { kind := .regular, mode := 0o444, size := 0, identity := (2, o.number)
                     links := 1, modified := m.clock }
  | .pipe number =>
    match (m.pipe? number).bind (·.node) with
    | some n => statusOfNode m.files n
    | none => { kind := .fifo, mode := 0o600, size := 0, identity := (3, number), links := 1
                modified := m.clock }

def statusOfPlace (m : Machine) (place : Place) : Status :=
  let made (kind : Kind) (mode key : Nat) : Status :=
    { kind, mode, size := 0, identity := (4, key), links := 1, modified := m.clock }
  match place with
  | .node n => statusOfNode m.files n
  | .process pid => made .directory 0o555 (pid * 1000)
  | .descriptors pid => made .directory 0o500 (pid * 1000 + 1)
  | .description pid name => made .regular 0o444 (pid * 1000 + 2 + name.length)
  | .held number =>
    match m.opened? number with
    | some o => statusOfOpened m o
    | none => made .regular 0 0

def statusAt (m : Machine) (caller : Process) (path : Bytes) (follows : Bool) :
    Except Errno Status := do
  match (← locate m caller path follows).found? with
  | none => .error Errno.noEntry
  | some (.place place) => .ok (statusOfPlace m place)
  | some (.jump _ text) => .ok (aLink text.length)
  | some (.link text) =>
    let l ← locate m caller path false
    match l.directory with
    | .node n => .ok (match m.files.child? n l.name with
        | some link => statusOfNode m.files link
        | none => aLink text.length)
    | _ => .ok (aLink text.length)
where
  aLink (size : Nat) : Status :=
    { kind := .link, mode := 0o777, size, identity := (5, size), links := 1, modified := m.clock }

def namesAt (m : Machine) : Place → Except Errno (List Bytes)
  | .node n =>
    if !m.files.isDirectory n then .error Errno.notDirectory
    else if n == Files.processes then
      .ok ((m.files.entries n).map (·.1) ++ m.processes.map (toString ·.pid) ++ ["self"])
    else .ok ((m.files.entries n).map (·.1))
  | .process _ => .ok (["cwd", "exe", "fd", "root"] ++ descriptionNames)
  | .descriptors pid =>
    match m.get? pid with
    | some p => .ok (p.holdings.map fun h => toString h.descriptor)
    | none => .error Errno.noEntry
  | _ => .error Errno.notDirectory

end PidOne.Machine
