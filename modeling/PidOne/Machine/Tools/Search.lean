import PidOne.Machine.Regex
import PidOne.Machine.Tools.Streams

/-!
# The search for lines
-/

namespace PidOne.Machine.Tool

open Text (Bytes)
open Routine (Program)

structure Searching where
  expression : Regex
  ignoresCase : Bool := false
  isInverted : Bool := false
  wholeWords : Bool := false
  wholeLines : Bool := false
  counts : Bool := false
  /-- Only the names of files with a match are shown, or of those without one. -/
  namesOf : Option Bool := none
  isQuiet : Bool := false
  isSilent : Bool := false
  numbers : Bool := false
  offsets : Bool := false
  onlyMatches : Bool := false
  showsNames : Bool := false
  most : Option Nat := none
  before : Nat := 0
  after : Nat := 0
  isRecursive : Bool := false
  skipsDirectories : Bool := false
  readsBinary : Bool := false

/-- Whether a part of a line may stand for itself. -/
def Searching.fits (o : Searching) (p q : Regex.Place) : Bool :=
  (!o.wholeWords || (!Regex.isWordAt p.before && !Regex.isWordAt q.rest.head?)) &&
    (!o.wholeLines || (p.before.isNone && q.rest.isEmpty))

def Searching.beginsAt (o : Searching) (line : List Char) (p : Regex.Place) : Bool :=
  let x : Regex.Setting := { text := line, ignoresCase := o.ignoresCase }
  (Regex.run x (Regex.fuelFor line) o.expression p [] fun q groups =>
    if o.fits p q then some (q.offset, groups) else none).isSome

def Searching.longestFrom? (o : Searching) (line : List Char) (p : Regex.Place) : Option Nat :=
  let x : Regex.Setting := { text := line, ignoresCase := o.ignoresCase }
  ((List.range (p.rest.length + 1)).reverse).find? (fun length =>
    (Regex.run x (Regex.fuelFor line) o.expression p [] fun q groups =>
      if q.offset = p.offset + length && o.fits p q then some (q.offset, groups) else none).isSome)
    |>.map (p.offset + ·)

def Searching.hasMatchFrom (o : Searching) (line : List Char) : Nat → Regex.Place → Bool
  | 0, _ => false
  | fuel + 1, p =>
    o.beginsAt line p || (!p.rest.isEmpty && o.hasMatchFrom line fuel p.step)

def Searching.accepts (o : Searching) (line : Bytes) : Bool :=
  let cs := line.toList
  o.hasMatchFrom cs (cs.length + 1) { offset := 0, before := none, rest := cs } != o.isInverted

def Searching.matchesFrom (o : Searching) (line : List Char) :
    Nat → Regex.Place → List (Nat × List Char)
  | 0, _ => []
  | fuel + 1, p =>
    if p.rest.isEmpty then [] else
    match if o.beginsAt line p then o.longestFrom? line p else none with
    | some finish =>
      if finish > p.offset then
        (p.offset, p.rest.take (finish - p.offset)) ::
          o.matchesFrom line fuel (p.skip (finish - p.offset))
      else o.matchesFrom line fuel p.step
    | none => o.matchesFrom line fuel p.step

structure Progress where
  number : Nat := 0
  offset : Nat := 0
  found : Nat := 0
  /-- Lines that may have to be shown before a match, the last one first. -/
  held : List (Nat × Nat × Bytes) := []
  /-- How many lines are still shown behind a match. -/
  owed : Nat := 0
  lastShown : Nat := 0
  isBinary : Bool := false

def Searching.isMute (o : Searching) : Bool := o.isQuiet || o.counts || o.namesOf.isSome

def showFound (o : Searching) (name : Bytes) (mark : Bytes) (number offset : Nat) (text : Bytes) :
    Tool Unit :=
  print ((if o.showsNames then name ++ mark else "") ++
    (if o.numbers then toString number ++ mark else "") ++
    (if o.offsets then toString offset ++ mark else "") ++ text ++ "\n")

def hasContext (o : Searching) : Bool := o.before + o.after > 0

/-- Show a line that has been found, with what is to be shown around it. -/
def showMatch (o : Searching) (name line : Bytes) (s : Progress) : Tool Progress := do
  if o.isMute then pure s
  else if o.onlyMatches then
    if !o.isInverted then
      let cs := line.toList
      (o.matchesFrom cs (cs.length + 1) { offset := 0, before := none, rest := cs }).forM
        fun (offset, text) =>
          showFound o name ":" s.number (s.offset + offset) (String.ofList text)
    pure s
  else
    let context := (s.held.take o.before).reverse
    let first := (context.head?.map (·.1)).getD s.number
    if hasContext o && s.lastShown > 0 && first > s.lastShown + 1 then printLine "--"
    context.forM fun (number, offset, text) => showFound o name "-" number offset text
    showFound o name ":" s.number s.offset line
    pure { s with held := [], owed := o.after, lastShown := s.number }

/-- Look at a line; the answer tells whether the search goes on. -/
def examineLine (o : Searching) (name : Bytes) (s : Progress) (line : Bytes) :
    Tool (Progress × Bool) := do
  let s := { s with number := s.number + 1 }
  let next (s : Progress) : Progress := { s with offset := s.offset + line.length + 1 }
  if o.most.any (s.found ≥ ·) then
    if s.owed > 0 && !o.isMute then
      showFound o name "-" s.number s.offset line
      pure (next { s with owed := s.owed - 1, lastShown := s.number }, s.owed > 1)
    else pure (s, false)
  else if o.accepts line then
    let s := { s with found := s.found + 1 }
    if o.isQuiet || o.namesOf.isSome then pure (s, false)
    else if s.isBinary && !o.counts then
      warn s!"{name}: binary file matches"
      pure (s, false)
    else
      let s ← showMatch o name line s
      pure (next s, !(o.most.any (s.found ≥ ·) && o.after = 0))
  else if s.owed > 0 && !o.isMute && !o.onlyMatches then
    showFound o name "-" s.number s.offset line
    pure (next { s with owed := s.owed - 1, lastShown := s.number }, true)
  else
    let held := if o.before > 0 then (s.number, s.offset, line) :: s.held.take (o.before - 1) else []
    pure (next { s with held }, true)

/-- Search what a descriptor gives; the answer is how many lines were found. -/
def searchIn (o : Searching) (name : Bytes) (d : Descriptor) : Tool (Except Errno Nat) := do
  match ← readWhole d with
  | .error number => pure (.error number)
  | .ok text =>
    let isBinary := !o.readsBinary && text.contains '\x00'
    let start : Progress := { isBinary }
    let (s, _) ← if o.most == some 0 then pure (start, false)
      else stepLines (examineLine o name) (linesOf text) start
    if !o.isQuiet then
      match o.namesOf with
      | some wanted => if (s.found > 0) == wanted then printLine name
      | none => if o.counts then
          print ((if o.showsNames then name ++ ":" else "") ++ toString s.found ++ "\n")
    pure (.ok s.found)

/-- Search in what a path names, and below it; the answer tells whether something was found. -/
def searchPath (o : Searching) : Nat → Bytes → Tool Bool
  | 0, _ => pure false
  | fuel + 1, path => do
    let complain (number : Errno) : Tool Unit := do
      if o.isSilent then setCode 2 else fail s!"{path}: {number.message}" 2
    let isTree ← if path == "-" then pure false else isDirectory path
    if isTree && o.isRecursive then
      match ← Program.list path with
      | .error number =>
        complain number
        pure false
      | .ok names =>
        let found ← names.mapM fun name => searchPath o fuel (inside path name)
        pure (found.contains true)
    else if isTree && o.skipsDirectories then pure false
    else match ← openInput path with
      | .error number =>
        complain number
        pure false
      | .ok d =>
        let title := if path == "-" then "(standard input)" else path
        let isOwn ← if o.isMute || o.most.isSome then pure false else isOwnOutput d
        if isOwn then
          fail s!"{title}: input file is also the output" 2
          closeInput path d
          pure false
        else
          match ← searchIn o title d with
          | .error number =>
            complain number
            closeInput path d
            pure false
          | .ok count =>
            closeInput path d
            if count > 0 && o.isQuiet then quit 0
            pure (if o.namesOf == some false then count = 0 else count > 0)

def grepOptions : List Tool.Choice :=
  [⟨'E', "extended-regexp", .nothing⟩, ⟨'F', "fixed-strings", .nothing⟩,
    ⟨'G', "basic-regexp", .nothing⟩, ⟨'P', "perl-regexp", .nothing⟩, ⟨'e', "regexp", .value⟩,
    ⟨'f', "file", .value⟩, ⟨'i', "ignore-case", .nothing⟩, ⟨'y', "", .nothing⟩,
    ⟨'v', "invert-match", .nothing⟩, ⟨'w', "word-regexp", .nothing⟩,
    ⟨'x', "line-regexp", .nothing⟩, ⟨'c', "count", .nothing⟩, ⟨'L', "files-without-match", .nothing⟩,
    ⟨'l', "files-with-matches", .nothing⟩, ⟨'m', "max-count", .value⟩,
    ⟨'o', "only-matching", .nothing⟩, ⟨'q', "quiet", .nothing⟩, ⟨'q', "silent", .nothing⟩,
    ⟨'s', "no-messages", .nothing⟩, ⟨'b', "byte-offset", .nothing⟩,
    ⟨'H', "with-filename", .nothing⟩, ⟨'h', "no-filename", .nothing⟩,
    ⟨'n', "line-number", .nothing⟩, ⟨'A', "after-context", .value⟩,
    ⟨'B', "before-context", .value⟩, ⟨'C', "context", .value⟩, ⟨'a', "text", .nothing⟩,
    ⟨'d', "directories", .value⟩, ⟨'r', "recursive", .nothing⟩, ⟨'R', "", .nothing⟩,
    ⟨'z', "null-data", .nothing⟩, ⟨'Z', "null", .nothing⟩, ⟨'T', "initial-tab", .nothing⟩,
    ⟨'1', "color", .valueOrNothing⟩, ⟨'2', "line-buffered", .nothing⟩, ⟨'I', "", .nothing⟩]

def grepUsage {α : Type} : Tool α := do
  flush
  let name := (← get).name
  let help := s!"'{name} --help'"
  putError s!"Usage: {name} [OPTION]... PATTERNS [FILE]...\nTry {help} for more information.\n"
  Program.exit 2

def expressionOf (isExtended isLiteral : Bool) (pattern : Bytes) : Tool Regex := do
  if isLiteral then pure (Regex.literal pattern)
  else
    if isExtended && pattern.startsWith "*" then warn "warning: * at start of expression"
    match Regex.ofText isExtended pattern with
    | .ok r => pure r
    | .error message => die message 2

def grep (isExtended isLiteral : Bool) (arguments : List Bytes) : Tool Unit := do
  -- An overflow of the stack is to be reported.
  let _ ← Program.react 11 (some .catch)
  let arguments := arguments.flatMap fun a => match numberOption? a with
    | some digits => ["-C", digits]
    | none => [a]
  match readArguments grepOptions true (arguments.length + 1) arguments {} with
  | .error message =>
    warn message
    grepUsage
  | .ok g =>
    let language := (g.options.filter fun x => "EFGP".toList.contains x.1).getLast?.map (·.1)
    let isExtended := (language.map fun c => c == 'E' || c == 'P').getD isExtended
    let isLiteral := (language.map (· == 'F')).getD isLiteral
    let given := (g.options.filter (·.1 == 'e')).map (·.2)
    let fromFiles ← ((g.options.filter (·.1 == 'f')).map (·.2)).mapM fun name => do
      match ← openInput name with
      | .error number => die s!"{name}: {number.message}" 2
      | .ok d =>
        match ← readWhole d with
        | .error number => die s!"{name}: {number.message}" 2
        | .ok text =>
          closeInput name d
          pure (linesOf text)
    let isGiven := g.has 'e' || g.has 'f'
    let (patterns, paths) ← if isGiven then
        pure (given.flatMap (·.splitOn "\n") ++ fromFiles.flatten, g.operands)
      else match g.operands with
        | pattern :: paths => pure (pattern.splitOn "\n", paths)
        | [] => grepUsage
    let expressions ← patterns.mapM (expressionOf isExtended isLiteral)
    let never : Regex := .set (.among [] [] false)
    let expression := match expressions with
      | [] => never
      | r :: rest => rest.foldl Regex.either r
    let number (letter : Char) (words : Bytes) : Tool (Option Nat) :=
      (g.value? letter).mapM fun text => do
        match text.toNat? with
        | some n => pure n
        | none => die (if words.isEmpty then "invalid max count"
            else s!"{text}: {words}") 2
    let context ← number 'C' "invalid context length argument"
    let after ← number 'A' "invalid context length argument"
    let before ← number 'B' "invalid context length argument"
    let most ← number 'm' ""
    let isRecursive := g.has 'r' || g.has 'R' || g.value? 'd' == some "recurse"
    let paths := if paths.isEmpty then [if isRecursive then "." else "-"] else paths
    let manner := (g.options.filter fun x => "Hh".toList.contains x.1).getLast?.map (·.1)
    let o : Searching :=
      { expression, ignoresCase := g.has 'i' || g.has 'y', isInverted := g.has 'v'
        wholeWords := g.has 'w', wholeLines := g.has 'x', counts := g.has 'c'
        namesOf := if g.has 'l' then some true else if g.has 'L' then some false else none
        isQuiet := g.has 'q', isSilent := g.has 's', numbers := g.has 'n', offsets := g.has 'b'
        onlyMatches := g.has 'o'
        showsNames := manner == some 'H' || (manner.isNone && (paths.length > 1 || isRecursive))
        most, before := (before.or context).getD 0, after := (after.or context).getD 0
        isRecursive, skipsDirectories := g.value? 'd' == some "skip", readsBinary := g.has 'a' }
    let found ← paths.mapM (searchPath o deepestCopy)
    if (← get).code = 0 then
      if !found.contains true then setCode 1

end PidOne.Machine.Tool
