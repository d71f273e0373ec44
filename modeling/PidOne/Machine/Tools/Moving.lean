import PidOne.Machine.Tools.Making

/-!
# Tools that copy, move and link files
-/

namespace PidOne.Machine.Tool

open Text (Bytes)
open Routine (Program)

structure Moving where
  isForced : Bool := false
  asks : Bool := false
  /-- Files that are there stay as they are; with a complaint or without one. -/
  keepsOld : Bool := false
  complains : Bool := false
  keepsNewer : Bool := false
  isLoud : Bool := false
  isRecursive : Bool := false
  /-- Links that are named are followed. -/
  follows : Bool := true
  preserves : Bool := false
  links : Bool := false
  isSymbolic : Bool := false

/-! ## Sources and targets -/

structure Plan where
  sources : List Bytes
  target : Bytes
  isInside : Bool

/-- The last component of a path as it is given: dots stay. -/
def givenName (path : Bytes) : Bytes :=
  let cs := path.toList.reverse.dropWhile (· == '/')
  String.ofList (cs.takeWhile (· != '/')).reverse

def Plan.targetOf (p : Plan) (source : Bytes) : Bytes :=
  if p.isInside then inside p.target (givenName source) else p.target

/-- The plan that operands and options for the target make. Of several operands the last one is the
target, and several sources need a directory. -/
def planOf (directory : Option Bytes) (isExact followsTarget : Bool) (operands : List Bytes) :
    Tool Plan := do
  if operands.isEmpty then misuse "missing file operand"
  match directory with
  | some target =>
    if isExact then die "cannot combine --target-directory (-t) and --no-target-directory (-T)"
    match ← Program.status target with
    | .error number => die s!"target directory {shellQuoted target}: {number.message}"
    | .ok status =>
      if status.kind != .directory then
        die s!"target directory {shellQuoted target}: {Errno.notDirectory.message}"
      pure { sources := operands, target, isInside := true }
  | none =>
    let sources := operands.dropLast
    let target := operands.getLastD ""
    if sources.isEmpty then misuse s!"missing destination file operand after {shellQuoted target}"
    if isExact then
      if sources.length > 1 then extraOperand (operands.getD 2 "")
      pure { sources, target, isInside := false }
    else
      let status ← Program.status target followsTarget
      let isDirectory := status.toOption.any (·.kind == .directory)
      if sources.length > 1 && !isDirectory then
        let number := match status with
          | .ok _ => Errno.notDirectory
          | .error number => number
        die s!"target {shellQuoted target}: {number.message}"
      pure { sources, target, isInside := isDirectory }

/-! ## Copies -/

def pour (source target : Descriptor) : Nat → Tool (Except Errno Unit)
  | 0 => pure (.ok ())
  | fuel + 1 => do
    match ← readBlock source 65536 enough with
    | .ok "" => pure (.ok ())
    | .ok text =>
      match ← writeAll target text with
      | .ok _ => pour source target fuel
      | .error number => pure (.error number)
    | .error number => pure (.error number)

def copyText (source target : Bytes) (status : Status) (isNew : Bool) : Tool Unit := do
  match ← Program.openFile source { reads := true } with
  | .error number => fail s!"cannot open {shellQuoted source} for reading: {number.message}"
  | .ok d =>
    let access : Access :=
      if isNew then { writes := true, creates := true, isNew := true }
      else { writes := true, truncates := true }
    match ← Program.openFile target access (Nat.land status.mode 0o777) with
    | .error number =>
      let number := if number = Errno.isDirectory && target.endsWith "/" then Errno.notDirectory
        else number
      refused "cannot create regular file" target number
    | .ok t =>
      match ← pour d t enough with
      | .ok _ => pure ()
      | .error number => fail s!"error writing {shellQuoted target}: {number.message}"
      let _ ← Program.close t
    let _ ← Program.close d

def announceMove (o : Moving) (words source target : Bytes) : Tool Unit := do
  if o.isLoud then printLine s!"{words}{shellQuoted source} -> {shellQuoted target}"

def sameFile (source target : Bytes) : Tool Unit :=
  fail s!"{shellQuoted source} and {shellQuoted target} are the same file"

def mayReplace (o : Moving) (source old : Status) (target : Bytes) : Tool Bool := do
  if o.keepsOld then
    if o.complains then fail s!"not replacing {shellQuoted target}"
    pure false
  else if o.keepsNewer && source.modified ≤ old.modified then pure false
  else if o.asks then
    let isAgreed ← confirm s!"overwrite {shellQuoted target}"
    if !isAgreed then setCode 1
    pure isAgreed
  else pure true

def applyPreserved (o : Moving) (status : Status) (target : Bytes) : Tool Unit := do
  if o.preserves then
    let _ ← Program.change (.setMode target status.mode)
    let _ ← Program.change (.setTime target (some status.modified))

/-- The whole that is copied: its names, and the directory that has been made for it. -/
structure Whole where
  source : Bytes
  target : Bytes
  made : Option (Nat × Nat) := none

mutual

def copyTree (o : Moving) : Nat → Whole → Bytes → Bytes → Tool Unit
  | 0, _, _, _ => pure ()
  | fuel + 1, whole, source, target => do
    match ← Program.status source o.follows with
    | .error number => refused "cannot stat" source number
    | .ok status =>
      if whole.made == some status.identity then
        fail (s!"cannot copy a directory, {shellQuoted whole.source}, into itself, " ++
          shellQuoted whole.target)
      else if status.kind == .directory && !o.isRecursive then
        fail s!"-r not specified; omitting directory {shellQuoted source}"
      else
        let isLink := status.kind == .link
        match ← Program.status target (!isLink) with
        | .error number =>
          if number = Errno.noEntry || target.isEmpty then
            let isDangling := (← statusOf? target false).isSome
            if isDangling && status.kind == .regular && !o.isSymbolic && !o.links then
              fail s!"not writing through dangling symlink {shellQuoted target}"
            else
              announceMove o "" source target
              copyNew o fuel whole source target status
          else refused "cannot stat" target number
        | .ok old =>
          if old.identity == status.identity && !(o.links && !o.isForced) then
            sameFile source target
          else if status.kind == .directory && old.kind != .directory then
            fail (s!"cannot overwrite non-directory {shellQuoted target} with directory " ++
              shellQuoted source)
          else if status.kind != .directory && old.kind == .directory then
            fail s!"cannot overwrite directory {shellQuoted target} with non-directory"
          else if status.kind == .directory then copyInto o fuel whole source target none
          else if ← mayReplace o status old target then
            announceMove o "" source target
            if o.links || o.isSymbolic || isLink then
              if o.isForced || isLink then
                let _ ← Program.change (.unlink target)
              copyNew o fuel whole source target status
            else copyText source target status false
            applyPreserved o status target

def copyNew (o : Moving) : Nat → Whole → Bytes → Bytes → Status → Tool Unit
  | 0, _, _, _, _ => pure ()
  | fuel + 1, whole, source, target, status => do
    let report (words : Bytes) (answer : Except Errno Unit) : Tool Unit :=
      match answer with
      | .ok _ => pure ()
      | .error number => refused words target number
    match status.kind with
    | .directory =>
      match ← Program.change (.makeDirectory target (Nat.land status.mode 0o777)) with
      | .error number => refused "cannot create directory" target number
      | .ok _ =>
        let made := (← statusOf? target).map (·.identity)
        copyInto o fuel { whole with made := whole.made.or made } source target (some status)
    | .link =>
      match ← Program.readLink source with
      | .ok text => report "cannot create symbolic link" (← Program.change (.symlink text target))
      | .error number => refused "cannot read symbolic link" source number
    | .fifo =>
      if o.isRecursive then
        report "cannot create fifo" (← Program.change (.makeFifo target status.mode))
      else copyText source target status true
    | _ =>
      if o.isSymbolic then
        report "cannot create symbolic link" (← Program.change (.symlink source target))
      else if o.links then
        report "cannot create link" (← Program.change (.link source target))
      else
        copyText source target status true
        applyPreserved o status target

def copyInto (o : Moving) : Nat → Whole → Bytes → Bytes → Option Status → Tool Unit
  | 0, _, _, _, _ => pure ()
  | fuel + 1, whole, source, target, made => do
    match ← Program.list source with
    | .error number => fail s!"cannot access {shellQuoted source}: {number.message}"
    | .ok names =>
      names.forM fun name => copyTree o fuel whole (inside source name) (inside target name)
      match made with
      | some status => applyPreserved o status target
      | none => pure ()

end

def deepestCopy : Nat := 1000

def cp (arguments : List Bytes) : Tool Unit := do
  let g ← options
    [⟨'a', "archive", .nothing⟩, ⟨'d', "", .nothing⟩, ⟨'f', "force", .nothing⟩,
      ⟨'i', "interactive", .nothing⟩, ⟨'n', "no-clobber", .nothing⟩, ⟨'u', "", .nothing⟩,
      ⟨'U', "update", .valueOrNothing⟩, ⟨'v', "verbose", .nothing⟩, ⟨'r', "recursive", .nothing⟩,
      ⟨'R', "", .nothing⟩, ⟨'p', "", .nothing⟩, ⟨'1', "preserve", .valueOrNothing⟩,
      ⟨'P', "no-dereference", .nothing⟩, ⟨'L', "dereference", .nothing⟩, ⟨'H', "", .nothing⟩,
      ⟨'l', "link", .nothing⟩, ⟨'s', "symbolic-link", .nothing⟩, ⟨'t', "target-directory", .value⟩,
      ⟨'T', "no-target-directory", .nothing⟩, ⟨'x', "one-file-system", .nothing⟩] arguments
  let isRecursive := g.has 'r' || g.has 'R' || g.has 'a'
  let o : Moving :=
    { isForced := g.has 'f', asks := g.has 'i' && !g.has 'n'
      keepsOld := g.has 'n' || g.value? 'U' == some "none", keepsNewer := g.has 'u' ||
        (g.value? 'U').any fun x => x == "" || x == "older"
      isLoud := g.has 'v', isRecursive
      follows := g.has 'L' || g.has 'H' || !(isRecursive || g.has 'P' || g.has 'd')
      preserves := g.has 'p' || g.has 'a' || g.has '1', links := g.has 'l'
      isSymbolic := g.has 's' }
  let p ← planOf (g.value? 't') (g.has 'T') true g.operands
  if g.has 'n' then
    warn ("warning: behavior of -n is non-portable and may change in future; " ++
      "use --update=none instead")
  p.sources.forM fun source => do
    let target := p.targetOf source
    copyTree o deepestCopy { source, target } source target

/-! ## Moves -/

def moveOne (o : Moving) (source target : Bytes) : Tool Unit := do
  match ← Program.status source false with
  | .error number => refused "cannot stat" source number
  | .ok status =>
    match ← Program.status target false with
    | .error number =>
      if number = Errno.noEntry && !target.isEmpty then move status
      else if target.isEmpty && status.kind != .directory then
        fail s!"cannot overwrite directory {shellQuoted target} with non-directory"
      else if number = Errno.noEntry then move status
      else refused "cannot stat" target number
    | .ok old =>
      if isDots source && status.kind == .directory && old.identity != status.identity then
        refuse Errno.busy
      else if old.identity == status.identity then sameFile source target
      else if status.kind != .directory && old.kind == .directory then
        fail s!"cannot overwrite directory {shellQuoted target} with non-directory"
      else if status.kind == .directory && old.kind != .directory then
        fail (s!"cannot overwrite non-directory {shellQuoted target} with directory " ++
          shellQuoted source)
      else if status.kind == .link && (← statusOf? source).map (·.identity) == some old.identity
      then sameFile source target
      else if ← mayReplace o status old target then move status
where
  refuse (number : Errno) : Tool Unit :=
    fail s!"cannot move {shellQuoted source} to {shellQuoted target}: {number.message}"
  move (status : Status) : Tool Unit := do
    match ← Program.change (.rename source target) with
    | .ok _ => announceMove o "renamed " source target
    | .error number =>
      if number = Errno.invalid && status.kind == .directory then
        fail (s!"cannot move {shellQuoted source} to a subdirectory of itself, " ++
          shellQuoted target)
      else if number = Errno.notEmpty then
        fail s!"cannot overwrite {shellQuoted target}: {number.message}"
      else refuse number

def mv (arguments : List Bytes) : Tool Unit := do
  let g ← options
    [⟨'f', "force", .nothing⟩, ⟨'i', "interactive", .nothing⟩, ⟨'n', "no-clobber", .nothing⟩,
      ⟨'u', "", .nothing⟩, ⟨'U', "update", .valueOrNothing⟩, ⟨'v', "verbose", .nothing⟩,
      ⟨'t', "target-directory", .value⟩, ⟨'T', "no-target-directory", .nothing⟩] arguments
  let manner := (g.options.filter fun x => "fin".toList.contains x.1).getLast?.map (·.1)
  let o : Moving :=
    { isForced := manner == some 'f', asks := manner == some 'i'
      keepsOld := manner == some 'n' || g.value? 'U' == some "none"
      complains := manner == some 'n'
      keepsNewer := g.has 'u' || (g.value? 'U').any fun x => x == "" || x == "older"
      isLoud := g.has 'v' }
  let p ← planOf (g.value? 't') (g.has 'T') true g.operands
  p.sources.forM fun source => moveOne o source (p.targetOf source)

/-! ## Links -/

structure Linking where
  isSymbolic : Bool
  isForced : Bool
  isLoud : Bool
  follows : Bool

def linkOne (o : Linking) (source target : Bytes) : Tool Unit := do
  let mark := if o.isSymbolic then "->" else "=>"
  let kind := if o.isSymbolic then "symbolic" else "hard"
  let source? ← Program.status source o.follows
  let old? ← statusOf? target false
  match o.isSymbolic, source? with
  | false, .error number => refused "failed to access" source number
  | _, source? =>
    let isDirectory := source?.toOption.any (·.kind == .directory)
    if !o.isSymbolic && isDirectory then
      fail s!"{nameQuoted source}: hard link not allowed for directory"
    else if o.isForced && old?.isSome &&
        old?.map (·.identity) == source?.toOption.map (·.identity) then sameFile source target
    else
      if o.isForced && old?.any (·.kind != .directory) then
        let _ ← Program.change (.unlink target)
      match ← Program.change (if o.isSymbolic then .symlink source target else .link source target) with
      | .ok _ =>
        if o.isLoud then printLine s!"{shellQuoted target} {mark} {shellQuoted source}"
      | .error number =>
        let isShort := if o.isSymbolic then number != Errno.nameTooLong && !source.isEmpty
          else number = Errno.alreadyExists
        let front := s!"failed to create {kind} link {shellQuoted target}"
        fail (if isShort then s!"{front}: {number.message}"
          else s!"{front} {mark} {shellQuoted source}: {number.message}")

def ln (arguments : List Bytes) : Tool Unit := do
  let g ← options
    [⟨'s', "symbolic", .nothing⟩, ⟨'f', "force", .nothing⟩, ⟨'n', "no-dereference", .nothing⟩,
      ⟨'v', "verbose", .nothing⟩, ⟨'t', "target-directory", .value⟩,
      ⟨'T', "no-target-directory", .nothing⟩, ⟨'L', "logical", .nothing⟩,
      ⟨'P', "physical", .nothing⟩, ⟨'i', "interactive", .nothing⟩] arguments
  let o : Linking :=
    { isSymbolic := g.has 's', isForced := g.has 'f', isLoud := g.has 'v', follows := g.has 'L' }
  let p ← match g.operands, g.value? 't', g.has 'T' with
    | [source], none, false => pure { sources := [source], target := ".", isInside := true }
    | operands, target, isExact => planOf target isExact (!g.has 'n') operands
  p.sources.forM fun source => linkOne o source (p.targetOf source)

def link (arguments : List Bytes) : Tool Unit := do
  let g ← options [] arguments
  match g.operands with
  | [] => missingOperand
  | [a] => missingAfter a
  | [source, target] =>
    match ← Program.change (.link source target) with
    | .ok _ => pure ()
    | .error number =>
      fail (s!"cannot create link {shellQuoted target} to {shellQuoted source}: " ++ number.message)
  | _ :: _ :: extra :: _ => extraOperand extra

end PidOne.Machine.Tool
