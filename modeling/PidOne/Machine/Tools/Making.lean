import PidOne.Machine.Modes
import PidOne.Machine.Tools.Words
import PidOne.Text.Calendar

/-!
# Tools that make and remove files
-/

namespace PidOne.Machine.Tool

open Text (Bytes)
open Routine (Program)

/-! ## Common parts -/

def statusOf? (path : Bytes) (follows : Bool := true) : Tool (Option Status) := do
  pure (← Program.status path follows).toOption

def isDirectory (path : Bytes) : Tool Bool := do
  pure ((← statusOf? path).any (·.kind == .directory))

def refused (front path : Bytes) (number : Errno) : Tool Unit :=
  fail s!"{front} {shellQuoted path}: {number.message}"

/-- Read an answer: its first letter. -/
def readAnswer : Nat → Bytes → Tool Bytes
  | 0, seen => pure seen
  | fuel + 1, seen => do
    match ← readBlock 0 1 enough with
    | .ok "" => pure seen
    | .ok "\n" => pure seen
    | .ok c => readAnswer fuel (seen ++ c)
    | .error _ => pure seen

def confirm (question : Bytes) : Tool Bool := do
  flush
  putError s!"{(← get).name}: {question}? "
  let answer ← readAnswer enough ""
  pure (answer.startsWith "y" || answer.startsWith "Y")

def kindName (s : Status) : Bytes :=
  match s.kind with
  | .regular => if s.size = 0 then "regular empty file" else "regular file"
  | .directory => "directory"
  | .link => "symbolic link"
  | .fifo => "fifo"
  | .device => "character special file"

def octalMode? (text : Bytes) : Option Nat :=
  let cs := text.toList
  if cs.isEmpty || !cs.all Text.isOctal then none
  else
    let n := Text.readDigits 8 cs
    if n ≤ 4095 then some n else none

def modeFrom? (text : Bytes) (mode : Nat) (isDirectory : Bool) (mask : Nat) : Option Nat :=
  if text.toList.any Char.isDigit then octalMode? text
  else symbolicMode? mode isDirectory mask text

def currentMask : Tool Nat := do
  let mask ← Program.mask (some 0)
  let _ ← Program.mask (some mask)
  pure mask

/-! ## Directories -/

structure Making where
  mode : Option Nat := none
  isLoud : Bool := false
  makesParents : Bool := false

def announceDirectory (o : Making) (path : Bytes) : Tool Unit := do
  if o.isLoud then printLine s!"{(← get).name}: created directory {shellQuoted path}"

/-- Make the directories that lead to a path: whether they are there. -/
def makeParents (o : Making) : List Bytes → Tool Bool
  | [] => pure true
  | path :: rest => do
    match ← Program.change (.makeDirectory path 0o777) with
    | .ok _ =>
      announceDirectory o path
      makeParents o rest
    | .error number =>
      if ← isDirectory path then makeParents o rest
      else
        let number := if number = Errno.alreadyExists && (← statusOf? path).isSome then
          Errno.notDirectory else number
        refused "cannot create directory" path number
        pure false

def parentsOf (path : Bytes) : List Bytes :=
  let parts := (path.splitOn "/").filter (· != "")
  let front := if path.startsWith "/" then "/" else ""
  ((List.range parts.length).drop 1).map fun n => front ++ "/".intercalate (parts.take n)

def makeOneDirectory (o : Making) (path : Bytes) : Tool Unit := do
  let hasParents ← if o.makesParents then makeParents o (parentsOf path) else pure true
  if hasParents then
    match ← Program.change (.makeDirectory path 0o777) with
    | .ok _ =>
      announceDirectory o path
      match o.mode with
      | some mode =>
        let _ ← Program.change (.setMode path mode)
      | none => pure ()
    | .error number =>
      let isThere ← if o.makesParents && number = Errno.alreadyExists then isDirectory path
        else pure false
      if !isThere then refused "cannot create directory" path number

def mkdir (arguments : List Bytes) : Tool Unit := do
  let g ← options
    [⟨'p', "parents", .nothing⟩, ⟨'m', "mode", .value⟩, ⟨'v', "verbose", .nothing⟩] arguments
  if g.operands.isEmpty then missingOperand
  let mask ← currentMask
  let mode ← (g.value? 'm').mapM fun text => do
    match modeFrom? text 0o777 true mask with
    | some mode => pure mode
    | none => die s!"invalid mode {quoted text}"
  g.operands.forM (makeOneDirectory { mode, isLoud := g.has 'v', makesParents := g.has 'p' })

def rmdir (arguments : List Bytes) : Tool Unit := do
  let g ← options
    [⟨'p', "parents", .nothing⟩, ⟨'v', "verbose", .nothing⟩,
      ⟨'I', "ignore-fail-on-non-empty", .nothing⟩] arguments
  if g.operands.isEmpty then missingOperand
  let remove (words path : Bytes) : Tool Bool := do
    if g.has 'v' then printLine s!"{(← get).name}: removing directory, {shellQuoted path}"
    match ← Program.change (.removeDirectory path) with
    | .ok _ => pure true
    | .error number =>
      if !(g.has 'I' && number = Errno.notEmpty) then refused words path number
      pure false
  let rec removeAll : List Bytes → Tool Unit
    | [] => pure ()
    | path :: rest => do
      if ← remove "failed to remove directory" path then removeAll rest
  g.operands.forM fun path => do
    if ← remove "failed to remove" path then
      if g.has 'p' then removeAll (parentsOf path).reverse

/-! ## Files -/

/-- A time that is given by digits: month, day, hour and minute, perhaps with a year in front and
seconds behind a point. -/
def stampTime? (text : Bytes) : Option Nat :=
  let (digits, seconds) := match text.splitOn "." with
    | [digits, seconds] => (digits.toList, seconds.toList)
    | _ => (text.toList, ['0', '0'])
  let number (cs : List Char) : Nat := Text.readDigits 10 cs
  let two (k : Nat) (cs : List Char) : Nat := number ((cs.drop (2 * k)).take 2)
  if !(digits ++ seconds).all Char.isDigit || seconds.length != 2 then none else
  let year? : Option Nat := match digits.length with
    | 8 => some 2023
    | 10 => some (if two 0 digits < 69 then 2000 + two 0 digits else 1900 + two 0 digits)
    | 12 => some (number (digits.take 4))
    | _ => none
  year?.bind fun year =>
    let rest := digits.drop (digits.length - 8)
    let m : Text.Moment :=
      { date := { year, month := two 0 rest, day := two 1 rest }, hour := two 2 rest
        minute := two 3 rest, second := number seconds }
    if m.date.month = 0 || m.date.month > 12 || m.date.day = 0 || m.date.day > 31 || m.hour > 23 ||
      m.minute > 59 then none
    else some (m.seconds.toNat * 1000000)

/-- A time that is given as a date with or without a time of day, or as seconds behind a mark. -/
def writtenTime? (now : Nat) (text : Bytes) : Option Nat :=
  let number? (s : Bytes) : Option Nat :=
    if !s.isEmpty && s.toList.all Char.isDigit then some (Text.readDigits 10 s.toList) else none
  if text == "now" then some now
  else if text.startsWith "@" then
    (number? (String.ofList (text.toList.drop 1))).map (· * 1000000)
  else
    let parts := (String.ofList (text.toList.map fun c => if c == 'T' then ' ' else c)).splitOn " "
    let date? : Option Text.Date := do
      match (parts.headD "").splitOn "-" with
      | [y, m, d] => some { year := ← number? y, month := ← number? m, day := ← number? d }
      | _ => none
    let time? : Option (Nat × Nat × Nat) := do
      match ((parts.drop 1).headD "00:00").splitOn ":" with
      | [h, m] => some (← number? h, ← number? m, 0)
      | [h, m, s] => some (← number? h, ← number? m, ← number? s)
      | _ => none
    if parts.length > 2 then none else do
      let (hour, minute, second) ← time?
      let m : Text.Moment := { date := ← date?, hour, minute, second }
      some (m.seconds.toNat * 1000000)

def touchOne (isKept : Bool) (time : Option Nat) (path : Bytes) : Tool Unit := do
  if path == "-" then return
  let opened ← if isKept then pure (.error Errno.noEntry)
    else Program.openFile path { writes := true, creates := true }
  match opened with
  | .ok d =>
    let _ ← Program.close d
    let _ ← Program.change (.setTime path time)
  | .error number =>
    match ← Program.change (.setTime path time) with
    | .ok _ => pure ()
    | .error after =>
      if isKept then
        if after != Errno.noEntry then refused "setting times of" path after
      else if number = Errno.isDirectory then refused "setting times of" path after
      else refused "cannot touch" path number

def touch (arguments : List Bytes) : Tool Unit := do
  let g ← options
    [⟨'a', "", .nothing⟩, ⟨'m', "", .nothing⟩, ⟨'c', "no-create", .nothing⟩,
      ⟨'h', "no-dereference", .nothing⟩, ⟨'f', "", .nothing⟩, ⟨'r', "reference", .value⟩,
      ⟨'d', "date", .value⟩, ⟨'t', "", .value⟩] arguments
  let now ← Program.clock
  let valid (text : Bytes) (time : Option Nat) : Tool (Option Nat) :=
    match time with
    | some time => pure (some time)
    | none => die s!"invalid date format {quoted text}"
  let time ← match g.value? 't', g.value? 'd', g.value? 'r' with
    | some text, _, _ => valid text (stampTime? text)
    | none, some text, _ => valid text (writtenTime? now text)
    | none, none, some path => do
      match ← Program.status path with
      | .ok status => pure (some status.modified)
      | .error number =>
        die s!"failed to get attributes of {shellQuoted path}: {number.message}"
    | none, none, none => pure none
  if g.operands.isEmpty then misuse "missing file operand"
  let isOther := g.has 'a' && !g.has 'm'
  g.operands.forM fun path => do
    let before ← statusOf? path
    touchOne (g.has 'c' || g.has 'h') (if isOther then before.map (·.modified) else time) path

/-! ## Removal -/

structure Removing where
  isForced : Bool := false
  isRecursive : Bool := false
  removesEmpty : Bool := false
  asks : Bool := false
  isLoud : Bool := false

def isAbsence (number : Errno) : Bool :=
  [Errno.noEntry, Errno.notDirectory, Errno.invalid].contains number

def cannotRemove (o : Removing) (path : Bytes) (number : Errno) : Tool Bool := do
  if !(o.isForced && isAbsence number) then refused "cannot remove" path number
  pure false

def mayRemove (o : Removing) (words path : Bytes) : Tool Bool :=
  if o.asks then confirm s!"{words} {shellQuoted path}" else pure true

def unlinkOne (o : Removing) (status : Status) (path : Bytes) : Tool Bool := do
  if !(← mayRemove o s!"remove {kindName status}" path) then pure false else
  match ← Program.change (.unlink path) with
  | .ok _ =>
    if o.isLoud then printLine s!"removed {shellQuoted path}"
    pure true
  | .error number => cannotRemove o path number

def removeEmpty (o : Removing) (path : Bytes) : Tool Bool := do
  if !(← mayRemove o "remove directory" path) then pure false else
  match ← Program.change (.removeDirectory path) with
  | .ok _ =>
    if o.isLoud then printLine s!"removed directory {shellQuoted path}"
    pure true
  | .error number => cannotRemove o path number

/-- Go through parts of a whole; the answer is whether all of them have been done. -/
def forAll (work : Bytes → Tool Bool) : List Bytes → Tool Bool
  | [] => pure true
  | x :: rest => do
    let isDone ← work x
    let areDone ← forAll work rest
    pure (isDone && areDone)

def inside (directory name : Bytes) : Bytes :=
  if directory.endsWith "/" then directory ++ name else directory ++ "/" ++ name

def isDots (path : Bytes) : Bool :=
  let name := ((path.splitOn "/").filter (· != "")).getLastD ""
  name == "." || name == ".."

/-- Remove what a path names, with all that is in it; the depth is that of the path. -/
def removeTree (o : Removing) : Nat → Nat → Bytes → Tool Bool
  | 0, _, _ => pure false
  | fuel + 1, depth, path => do
    match ← Program.status path false with
    | .error number => cannotRemove o path number
    | .ok status =>
      if status.kind != .directory then unlinkOne o status path
      else if !o.isRecursive then
        if o.removesEmpty then removeEmpty o path
        else cannotRemove { o with isForced := false } path Errno.isDirectory
      else if depth = 0 && isDots path then
        let one := "'.'"
        let other := "'..'"
        fail s!"refusing to remove {one} or {other} directory: skipping {shellQuoted path}"
        pure false
      else if depth = 0 && path.toList.all (· == '/') then
        fail s!"it is dangerous to operate recursively on {shellQuoted path}"
        fail "use --no-preserve-root to override this failsafe"
        pure false
      else
        match ← Program.list path with
        | .error number => cannotRemove o path number
        | .ok names =>
          let mayEnter ← if names.isEmpty then pure true
            else mayRemove o "descend into directory" path
          if !mayEnter then pure false
          else if ← forAll (fun name => removeTree o fuel (depth + 1) (inside path name)) names then
            removeEmpty o path
          else pure false

def rm (arguments : List Bytes) : Tool Unit := do
  let g ← options
    [⟨'f', "force", .nothing⟩, ⟨'i', "", .nothing⟩, ⟨'I', "", .nothing⟩,
      ⟨'r', "recursive", .nothing⟩, ⟨'R', "", .nothing⟩, ⟨'d', "dir", .nothing⟩,
      ⟨'v', "verbose", .nothing⟩, ⟨'1', "one-file-system", .nothing⟩,
      ⟨'2', "preserve-root", .valueOrNothing⟩, ⟨'3', "interactive", .valueOrNothing⟩] arguments
  -- Of force and of questions the last word counts.
  let manner := (g.options.filter fun x => "fi".toList.contains x.1).getLast?.map (·.1)
  let o : Removing :=
    { isForced := manner == some 'f', isRecursive := g.has 'r' || g.has 'R'
      removesEmpty := g.has 'd', asks := manner == some 'i', isLoud := g.has 'v' }
  if g.operands.isEmpty then
    if o.isForced then return
    missingOperand
  let count := g.operands.length
  if g.has 'I' && (o.isRecursive || count > 3) then
    let words := if count = 1 then "argument" else "arguments"
    let how := if o.isRecursive then " recursively" else ""
    if !(← confirm s!"remove {count} {words}{how}") then return
  g.operands.forM fun path => do
    let _ ← removeTree o 2000 0 path

def unlink (arguments : List Bytes) : Tool Unit := do
  let g ← options [] arguments
  match g.operands with
  | [] => missingOperand
  | [path] =>
    match ← Program.change (.unlink path) with
    | .ok _ => pure ()
    | .error number => refused "cannot unlink" path number
  | _ :: extra :: _ => extraOperand extra

/-! ## Pipes and temporary files -/

def mkfifo (arguments : List Bytes) : Tool Unit := do
  let g ← options [⟨'m', "mode", .value⟩, ⟨'Z', "", .nothing⟩] arguments
  if g.operands.isEmpty then missingOperand
  let mask ← currentMask
  let mode ← (g.value? 'm').mapM fun text => do
    match modeFrom? text 0o666 false mask with
    | some mode => pure mode
    | none => die s!"invalid mode"
  g.operands.forM fun path => do
    match ← Program.change (.makeFifo path 0o666) with
    | .ok _ =>
      match mode with
      | some mode =>
        let _ ← Program.change (.setMode path mode)
      | none => pure ()
    | .error number => refused "cannot create fifo" path number

/-- A name whose last letters, which are all alike, are replaced by others. -/
def madeName (template : Bytes) (seed : Nat) : Bytes :=
  let cs := template.toList.reverse
  let marks := cs.takeWhile (· == 'X')
  let letters := "abcdefghijklmnopqrstuvwxyzABCDEFGHIJKLMNOPQRSTUVWXYZ0123456789".toList
  let made := (List.range marks.length).map fun k =>
    letters.getD ((seed * 7919 + k * 104729 + seed / (k + 3)) % 62) 'a'
  String.ofList ((cs.drop marks.length).reverse ++ made)

def mktemp (arguments : List Bytes) : Tool Unit := do
  let g ← options
    [⟨'d', "directory", .nothing⟩, ⟨'u', "dry-run", .nothing⟩, ⟨'q', "quiet", .nothing⟩,
      ⟨'p', "tmpdir", .value⟩, ⟨'t', "", .nothing⟩] arguments
  match g.operands with
  | _ :: _ :: _ => misuse "too many templates"
  | _ =>
    let template := g.operands.headD "tmp.XXXXXXXXXX"
    if (template.toList.reverse.takeWhile (· == 'X')).length < 3 then
      die s!"too few X's in template {quoted template}"
    let template := if g.operands.isEmpty || g.has 't' || g.has 'p' then
      inside ((g.value? 'p').getD "/tmp") template else template
    let self ← Program.identity
    let path := madeName template (self.pid + (← Program.clock) / 50)
    let made ← if g.has 'u' then pure (.ok ())
      else if g.has 'd' then Program.change (.makeDirectory path 0o700)
      else do
        match ← Program.openFile path { writes := true, creates := true, isNew := true } 0o600 with
        | .ok _ => pure (.ok ())
        | .error number => pure (.error number)
    match made with
    | .ok _ => printLine path
    | .error number =>
      let what := if g.has 'd' then "directory" else "file"
      die s!"failed to create {what} via template {quoted template}: {number.message}"

def size? (text : Bytes) : Option Nat :=
  let cs := text.toList
  let digits := cs.takeWhile Char.isDigit
  let n := Text.readDigits 10 digits
  if digits.isEmpty then none else
  match String.ofList (cs.drop digits.length) with
  | "" => some n
  | "b" => some (n * 512)
  | "c" => some n
  | "K" => some (n * 1024)
  | "k" => some (n * 1024)
  | "KB" => some (n * 1000)
  | "kB" => some (n * 1000)
  | "KiB" => some (n * 1024)
  | "M" => some (n * 1048576)
  | "MB" => some (n * 1000000)
  | "MiB" => some (n * 1048576)
  | "m" => some (n * 1048576)
  | _ => none

def truncate (arguments : List Bytes) : Tool Unit := do
  let g ← options
    [⟨'c', "no-create", .nothing⟩, ⟨'o', "io-blocks", .nothing⟩, ⟨'r', "reference", .value⟩,
      ⟨'s', "size", .value⟩] arguments
  let reference ← (g.value? 'r').mapM fun path => do
    match ← Program.status path with
    | .ok status => pure status.size
    | .error number => die s!"cannot stat {shellQuoted path}: {number.message}"
  let (mark, amount) ← match g.value? 's', reference with
    | none, none =>
      let size := "'--size'"
      let other := "'--reference'"
      misuse s!"you must specify either {size} or {other}"
    | none, some size => pure (' ', size)
    | some text, _ => do
      let cs := text.toList
      let mark := if "+-<>/%".toList.contains (cs.headD ' ') then cs.headD ' ' else ' '
      match size? (if mark == ' ' then text else String.ofList (cs.drop 1)) with
      | some n => pure (mark, n)
      | none => die s!"Invalid number: {quoted text}"
  if g.operands.isEmpty then misuse "missing file operand"
  g.operands.forM fun path => do
    match ← Program.openFile path { writes := true, creates := !g.has 'c' } with
    | .error number =>
      if !(g.has 'c' && number = Errno.noEntry) then
        fail s!"cannot open {shellQuoted path} for writing: {number.message}"
    | .ok d =>
      let old := (← Program.statusOf d).toOption.elim 0 (·.size)
      let size := match mark with
        | '+' => old + amount
        | '-' => old - amount
        | '<' => min old amount
        | '>' => max old amount
        | '/' => if amount = 0 then 0 else old / amount * amount
        | '%' => if amount = 0 then 0 else (old + amount - 1) / amount * amount
        | _ => amount
      let _ ← Program.change (.truncate path size)
      let _ ← Program.close d

end PidOne.Machine.Tool
