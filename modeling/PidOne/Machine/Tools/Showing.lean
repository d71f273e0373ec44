import PidOne.Machine.Tools.Moving

/-!
# Tools that show and change what files are
-/

namespace PidOne.Machine.Tool

open Text (Bytes)
open Routine (Program)

/-! ## Permissions -/

def kindLetter : Kind → Char
  | .regular => '-'
  | .directory => 'd'
  | .link => 'l'
  | .fifo => 'p'
  | .device => 'c'

def modeLetters (mode : Nat) : List Char :=
  let has (bit : Nat) : Bool := mode / bit % 2 = 1
  let execution (bit special : Nat) (both only : Char) : Char :=
    if has special then if has bit then both else only
    else if has bit then 'x' else '-'
  let letter (bit : Nat) (c : Char) : Char := if has bit then c else '-'
  [letter 256 'r', letter 128 'w', execution 64 2048 's' 'S', letter 32 'r', letter 16 'w',
    execution 8 1024 's' 'S', letter 4 'r', letter 2 'w', execution 1 512 't' 'T']

def fullMode (s : Status) : Bytes := String.ofList (kindLetter s.kind :: modeLetters s.mode)

structure Modification where
  text : Bytes
  isRecursive : Bool := false
  isLoud : Bool := false
  tellsChanges : Bool := false
  isSilent : Bool := false
  reference : Option Nat := none
  mask : Nat := 0

def modeShown (mode : Nat) : Bytes :=
  s!"{Text.octal 4 mode} ({String.ofList (modeLetters mode)})"

def changeMode (o : Modification) : Nat → Bytes → Tool Unit
  | 0, _ => pure ()
  | fuel + 1, path => do
    let complain (message : Bytes) : Tool Unit :=
      if o.isSilent then setCode 1 else fail message
    match ← Program.status path with
    | .error number =>
      if (← statusOf? path false).isSome then
        complain s!"cannot operate on dangling symlink {shellQuoted path}"
      else complain s!"cannot access {shellQuoted path}: {number.message}"
    | .ok status =>
      let isDirectory := status.kind == .directory
      let mode := o.reference.getD ((modeFrom? o.text status.mode isDirectory o.mask).getD 0)
      let keepsSpecial := isDirectory && o.text.toList.all Char.isDigit && o.text.length < 5
      let mode := if keepsSpecial then Nat.lor mode (Nat.land status.mode 0o6000) else mode
      match ← Program.change (.setMode path mode) with
      | .error number => complain s!"changing permissions of {shellQuoted path}: {number.message}"
      | .ok _ =>
        if mode != status.mode && (o.isLoud || o.tellsChanges) then
          printLine (s!"mode of {shellQuoted path} changed from {modeShown status.mode} to " ++
            modeShown mode)
        else if o.isLoud then
          printLine s!"mode of {shellQuoted path} retained as {modeShown mode}"
        if o.isRecursive && isDirectory then
          match ← Program.list path with
          | .error number => complain s!"cannot read directory {shellQuoted path}: {number.message}"
          | .ok names => names.forM fun name => do
            let path := inside path name
            if (← statusOf? path false).any (·.kind != .link) then changeMode o fuel path

/-- Whether an argument with a dash in front is a mode. -/
def isDashedMode (a : Bytes) : Bool :=
  match a.toList with
  | '-' :: c :: _ => "rwxXst".toList.contains c
  | _ => false

def chmod (arguments : List Bytes) : Tool Unit := do
  let dashed := arguments.find? isDashedMode
  let g ← options
    [⟨'R', "recursive", .nothing⟩, ⟨'v', "verbose", .nothing⟩, ⟨'c', "changes", .nothing⟩,
      ⟨'f', "silent", .nothing⟩, ⟨'q', "quiet", .nothing⟩, ⟨'1', "reference", .value⟩]
    (match dashed with
      | some a => arguments.erase a
      | none => arguments)
  let reference ← (g.value? '1').mapM fun path => do
    match ← Program.status path with
    | .ok status => pure status.mode
    | .error number => die s!"failed to get attributes of {shellQuoted path}: {number.message}"
  let (text, paths) ← match dashed, reference, g.operands with
    | some text, _, paths => pure (text, paths)
    | none, some _, paths => pure ("", paths)
    | none, none, text :: paths => pure (text, paths)
    | none, none, [] => missingOperand
  if paths.isEmpty then
    if reference.isSome then missingOperand else missingAfter text
  let mask ← currentMask
  if reference.isNone && (modeFrom? text 0 false mask).isNone then
    misuse s!"invalid mode: {quoted text}"
  let o : Modification :=
    { text, isRecursive := g.has 'R', isLoud := g.has 'v', tellsChanges := g.has 'c'
      isSilent := g.has 'f' || g.has 'q', reference, mask }
  paths.forM (changeMode o deepestCopy)

/-! ## Links -/

inductive Existing
  | all
  | allButLast
  | none
  deriving DecidableEq, Repr

/-- A path without links, dots and doubled slashes in it: directories so far, the last one first,
and the components that are left. -/
def canonical (e : Existing) (follows : Bool) :
    Nat → List Bytes → List Bytes → Tool (Except Errno (List Bytes))
  | 0, _, _ => pure (.error Errno.tooManyLinks)
  | _, seen, [] => pure (.ok seen)
  | fuel + 1, seen, c :: rest => do
    if c == "" || c == "." then canonical e follows fuel seen rest
    else if c == ".." then canonical e follows fuel (seen.drop 1) rest
    else
      let path := "/" ++ "/".intercalate (c :: seen).reverse
      match ← Program.status path false with
      | .ok status =>
        if status.kind == .link && follows then
          match ← Program.readLink path with
          | .ok text =>
            let seen := if text.startsWith "/" then [] else seen
            canonical e follows fuel seen (text.splitOn "/" ++ rest)
          | .error number => pure (.error number)
        else if !rest.isEmpty && status.kind != .directory && e != .none then
          pure (.error Errno.notDirectory)
        else canonical e follows fuel (c :: seen) rest
      | .error number =>
        let isLast := rest.all (· == "")
        if e == .none || (e == .allButLast && isLast && number = Errno.noEntry) then
          canonical e follows fuel (c :: seen) rest
        else pure (.error number)

def canonicalPath (e : Existing) (follows : Bool) (path : Bytes) : Tool (Except Errno Bytes) := do
  if path.isEmpty then pure (.error Errno.noEntry) else
  let here ← Program.directory
  let start := if path.startsWith "/" then [] else (here.splitOn "/").filter (· != "")
  let found ← canonical e follows 4096 start.reverse (path.splitOn "/")
  pure (found.map fun parts => "/" ++ "/".intercalate parts.reverse)

def existingOf (g : Given) (other : Existing) : Existing :=
  if g.has 'm' then .none else if g.has 'e' then .all else other

def readlink (arguments : List Bytes) : Tool Unit := do
  let g ← options
    [⟨'f', "canonicalize", .nothing⟩, ⟨'e', "canonicalize-existing", .nothing⟩,
      ⟨'m', "canonicalize-missing", .nothing⟩, ⟨'n', "no-newline", .nothing⟩,
      ⟨'q', "quiet", .nothing⟩, ⟨'s', "silent", .nothing⟩, ⟨'v', "verbose", .nothing⟩,
      ⟨'z', "zero", .nothing⟩] arguments
  if g.operands.isEmpty then missingOperand
  let isCanonical := g.has 'f' || g.has 'e' || g.has 'm'
  let finish := if g.has 'n' && g.operands.length = 1 then "" else if g.has 'z' then "\x00"
    else "\n"
  g.operands.forM fun path => do
    let found ← if isCanonical then canonicalPath (existingOf g .allButLast) true path
      else Program.readLink path
    match found with
    | .ok text => print (text ++ finish)
    | .error number =>
      if g.has 'v' then fail s!"{nameQuoted path}: {number.message}" else setCode 1

def realpath (arguments : List Bytes) : Tool Unit := do
  let g ← options
    [⟨'e', "canonicalize-existing", .nothing⟩, ⟨'m', "canonicalize-missing", .nothing⟩,
      ⟨'s', "strip", .nothing⟩, ⟨'q', "quiet", .nothing⟩, ⟨'z', "zero", .nothing⟩,
      ⟨'P', "physical", .nothing⟩] arguments
  if g.operands.isEmpty then missingOperand
  g.operands.forM fun path => do
    match ← canonicalPath (existingOf g .allButLast) (!g.has 's') path with
    | .ok text => print (text ++ if g.has 'z' then "\x00" else "\n")
    | .error number =>
      if g.has 'q' then setCode 1 else fail s!"{nameQuoted path}: {number.message}"

/-! ## Status -/

def statusPart (path : Bytes) (s : Status) (link : Option Bytes) : Char → Bytes
  | 'n' => path
  | 'N' => match link with
    | some text => s!"{shellQuoted path} -> {shellQuoted text}"
    | none => shellQuoted path
  | 's' => toString s.size
  | 'a' => Text.octal 1 s.mode
  | 'A' => fullMode s
  | 'F' => kindName s
  | 'h' => toString s.links
  | 'i' => toString s.identity.2
  | 'd' => toString s.identity.1
  | 'u' => "0"
  | 'g' => "0"
  | 'U' => "root"
  | 'G' => "root"
  | 'b' => toString ((s.size + 4095) / 4096 * 8)
  | 'B' => "512"
  | 'o' => "4096"
  | 'Y' => toString (s.modified / 1000000)
  | 'X' => toString (s.modified / 1000000)
  | 'Z' => toString (s.modified / 1000000)
  | 'y' => String.ofList (Text.formatTime s.modified "%F %T.%N %z".toList)
  | '%' => "%"
  | _ => "?"

def statusText (path : Bytes) (s : Status) (link : Option Bytes) : List Char → List Char
  | '%' :: c :: rest => (statusPart path s link c).toList ++ statusText path s link rest
  | c :: rest => c :: statusText path s link rest
  | [] => []

def stat (arguments : List Bytes) : Tool Unit := do
  let g ← options
    [⟨'c', "format", .value⟩, ⟨'L', "dereference", .nothing⟩, ⟨'1', "printf", .value⟩,
      ⟨'t', "terse", .nothing⟩, ⟨'f', "file-system", .nothing⟩] arguments
  if g.operands.isEmpty then missingOperand
  g.operands.forM fun path => do
    let answer ← if path == "-" then Program.statusOf 0 else Program.status path (g.has 'L')
    match answer with
    | .error number => fail s!"cannot statx {shellQuoted path}: {number.message}"
    | .ok s =>
      let link ← if s.kind == .link then do pure (← Program.readLink path).toOption
        else pure none
      let shown (format : Bytes) : Bytes := String.ofList (statusText path s link format.toList)
      match g.value? 'c', g.value? '1' with
      | some format, _ => printLine (shown format)
      | none, some format =>
        print (shown (String.ofList (unescape .program format).1))
      | none, none =>
        print (shown ("  File: %n\n  Size: %s\tBlocks: %b\tIO Block: %o\t%F\n" ++
          "Access: (0%a/%A)\tUid: (0/root)\tGid: (0/root)\nModify: %y\n"))

/-! ## Lists -/

structure Listing where
  isLong : Bool := false
  showsHidden : Bool := false
  showsDots : Bool := false
  isRecursive : Bool := false
  asEntries : Bool := false
  follows : Bool := false
  mark : Char := ' '
  isReversed : Bool := false
  order : Char := ' '
  showsNodes : Bool := false
  style : Char := '1'
  hidesOwner : Bool := false
  hidesGroup : Bool := false
  numbers : Bool := false
  quotes : Char := ' '

structure Item where
  name : Bytes
  path : Bytes
  status : Status
  link : Option Bytes

def markOf (o : Listing) (s : Status) : Bytes :=
  if o.mark == ' ' then "" else
  match s.kind with
  | .directory => "/"
  | .link => if o.mark == 'F' && !o.isLong then "@" else ""
  | .fifo => if o.mark == 'F' then "|" else ""
  | .regular => if o.mark == 'F' && s.mode % 2 + s.mode / 8 % 2 + s.mode / 64 % 2 > 0 then "*"
    else ""
  | .device => ""

def shownName (o : Listing) (name : Bytes) : Bytes :=
  match o.quotes with
  | 'Q' => String.ofList ('"' :: name.toList.flatMap (fun c =>
      if c == '"' || c == '\\' then ['\\', c] else if isShown c then [c] else escapeOf c) ++ ['"'])
  | 'b' => String.ofList (name.toList.flatMap fun c =>
      if c == ' ' || c == '\\' then ['\\', c] else if isShown c then [c] else escapeOf c)
  | 'q' => String.ofList (name.toList.map fun c => if isShown c then c else '?')
  | _ => name

def sortItems (o : Listing) (items : List Item) : List Item :=
  let byName (a b : Item) : Bool := a.name ≤ b.name
  let sorted := match o.order with
    | 'U' => items
    | 't' => items.mergeSort fun a b =>
      a.status.modified > b.status.modified ||
        (a.status.modified == b.status.modified && byName a b)
    | 'S' => items.mergeSort fun a b =>
      a.status.size > b.status.size || (a.status.size == b.status.size && byName a b)
    | _ => items.mergeSort byName
  if o.isReversed && o.order != 'U' then sorted.reverse else sorted

def padLeft (width : Nat) (text : Bytes) : Bytes :=
  String.ofList (List.replicate (width - text.length) ' ') ++ text

def widest (texts : List Bytes) : Nat := (texts.map String.length).foldl max 0

def timeShown (now micros : Nat) : Bytes :=
  let m := Text.momentOf (micros / 1000000)
  let isRecent := micros ≤ now && now < micros + 15778476000000
  let time := if isRecent then s!"{Text.zeroPadded 2 m.hour}:{Text.zeroPadded 2 m.minute}"
    else s!" {m.date.year}"
  s!"{m.date.monthName} {padLeft 2 (toString m.date.day)} {time}"

def longLines (o : Listing) (now : Nat) (items : List Item) : List Bytes :=
  let column (f : Item → Bytes) : Nat := widest (items.map f)
  let links (i : Item) : Bytes := toString i.status.links
  let size (i : Item) : Bytes := if i.status.kind == .device then "1, 3" else toString i.status.size
  let owner := if o.numbers then "0" else "root"
  let owners := (if o.hidesOwner then [] else [owner]) ++ (if o.hidesGroup then [] else [owner])
  items.map fun i =>
    " ".intercalate ([fullMode i.status, padLeft (column links) (links i)] ++ owners ++
      [padLeft (column size) (size i), timeShown now i.status.modified,
        shownName o i.name ++ markOf o i.status]) ++
      i.link.elim "" fun text => s!" -> {text}"

def showItems (o : Listing) (items : List Item) : Tool Unit := do
  let now ← Program.clock
  let front (i : Item) : Bytes :=
    if o.showsNodes then toString i.status.identity.2 ++ " " else ""
  if o.isLong then
    (items.zip (longLines o now items)).forM fun (i, line) => printLine (front i ++ line)
  else
    let names := items.map fun i => front i ++ shownName o i.name ++ markOf o i.status
    match o.style with
    | 'm' => if !names.isEmpty then printLine (", ".intercalate names)
    | 'x' => if !names.isEmpty then printLine ("  ".intercalate names)
    | _ => names.forM printLine

def itemOf (o : Listing) (path name : Bytes) : Tool (Except Errno Item) := do
  match ← Program.status path o.follows with
  | .error number => pure (.error number)
  | .ok status =>
    let link ← if status.kind == .link && o.isLong then do
        pure (← Program.readLink path).toOption
      else pure none
    pure (.ok { name, path, status, link })

/-- Units of a kilobyte that a file takes. -/
def blocksOf (s : Status) : Nat :=
  match s.kind with
  | .link => 0
  | .fifo => 0
  | .device => 0
  | _ => (s.size + 4095) / 4096 * 4

def showDirectory (o : Listing) : Nat → Bool → Bytes → Tool Unit
  | 0, _, _ => pure ()
  | fuel + 1, isTitled, path => do
    match ← Program.list path with
    | .error number => fail s!"cannot open directory {shellQuoted path}: {number.message}" 2
    | .ok names =>
      let names := (if o.showsDots then [".", ".."] else []) ++ names
      let wanted := names.filter fun name =>
        o.showsDots || (o.showsHidden && name != "." && name != "..") || !name.startsWith "."
      let found ← wanted.mapM fun name => itemOf o (inside path name) name
      let items := sortItems o (found.filterMap Except.toOption)
      if isTitled then printLine s!"{path}:"
      if o.isLong then
        printLine s!"total {(items.map fun i => blocksOf i.status).foldl (· + ·) 0}"
      showItems o items
      if o.isRecursive then
        items.forM fun i => do
          if i.status.kind == .directory && i.name != "." && i.name != ".." then
            printLine ""
            showDirectory o fuel true i.path

def ls (arguments : List Bytes) : Tool Unit := do
  let choices := letters "alAdR1rtSUFpiLmxCQbqNhsognHkGBcufv" ++
    [⟨'1', "color", .valueOrNothing⟩, ⟨'A', "almost-all", .nothing⟩, ⟨'a', "all", .nothing⟩,
      ⟨'R', "recursive", .nothing⟩, ⟨'d', "directory", .nothing⟩, ⟨'r', "reverse", .nothing⟩]
  let g ← options choices arguments true 2
  let last (set : String) (other : Char) : Char :=
    ((g.options.filter fun x => set.toList.contains x.1).getLast?.map (·.1)).getD other
  let o : Listing :=
    { isLong := "logn".toList.contains (last "logn1mxC" '1') ||
        (g.has 'l' && !g.has 'm' && !g.has 'x' && !g.has 'C')
      showsHidden := g.has 'A' || g.has 'a' || g.has 'f', showsDots := g.has 'a' || g.has 'f'
      isRecursive := g.has 'R', asEntries := g.has 'd', follows := g.has 'L'
      mark := last "Fp" ' ', isReversed := g.has 'r'
      order := if g.has 'f' then 'U' else last "tSUv" ' '
      showsNodes := g.has 'i', style := if last "1mxCl" '1' == 'C' then 'x' else last "1mxl" '1'
      hidesOwner := g.has 'g', hidesGroup := g.has 'o' || g.has 'G', numbers := g.has 'n'
      quotes := last "QbqN" ' ' }
  let paths := if g.operands.isEmpty then ["."] else g.operands
  -- A link that is named is followed unless the list would tell that it is one.
  let followsNamed := o.follows || !(o.isLong || o.asEntries || o.mark == 'F')
  let found ← paths.mapM fun path => do
    let followed ← itemOf { o with follows := true } path path
    let plain ← itemOf o path path
    match (if followsNamed && followed.toOption.any (·.status.kind == .directory) then followed
        else plain) with
    | .ok i => pure (some i)
    | .error number =>
      fail s!"cannot access {shellQuoted path}: {number.message}" 2
      pure none
  let items := sortItems o (found.filterMap fun x => x)
  let isEntry (i : Item) : Bool := o.asEntries || i.status.kind != .directory
  let entries := items.filter isEntry
  let directories := items.filter (!isEntry ·)
  if !entries.isEmpty then showItems o entries
  let isTitled := paths.length > 1 || o.isRecursive
  let rec showAll (isFirst : Bool) : List Item → Tool Unit
    | [] => pure ()
    | i :: rest => do
      if !isFirst then printLine ""
      showDirectory o deepestCopy isTitled i.path
      showAll false rest
  showAll entries.isEmpty directories

end PidOne.Machine.Tool
