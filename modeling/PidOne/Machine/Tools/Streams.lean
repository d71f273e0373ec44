import PidOne.Machine.Tools.Showing

/-!
# Tools that pass texts on

Programs that write what they read, or a part of it, or how much it is.
-/

namespace PidOne.Machine.Tool

open Text (Bytes)
open Routine (Program)

/-- Names of inputs; standard input when there is none. -/
def inputsOf (g : Given) : List Bytes := if g.operands.isEmpty then ["-"] else g.operands

/-- Write a text at once; a failure ends the program. -/
def putOutput (text : Bytes) : Tool Unit := do
  match ← writeAll 1 text with
  | .ok _ => pure ()
  | .error number =>
    putError s!"{(← get).name}: write error: {number.message}\n"
    Program.exit (← get).writeFailure

/-! ## Whole texts -/

structure Rendering where
  numbersAll : Bool := false
  numbersFull : Bool := false
  squeezes : Bool := false
  marksEnds : Bool := false
  marksTabs : Bool := false
  marksOthers : Bool := false

def Rendering.isPlain (r : Rendering) : Bool :=
  !(r.numbersAll || r.numbersFull || r.squeezes || r.marksEnds || r.marksTabs || r.marksOthers)

/-- A character as others that can be seen. -/
def visible (c : Char) : List Char :=
  let low (n : Nat) : List Char :=
    if n < 32 then ['^', Char.ofNat (n + 64)] else if n = 127 then ['^', '?'] else [Char.ofNat n]
  if c.toNat < 128 then low c.toNat else ['M', '-'] ++ low (c.toNat - 128)

def Rendering.char (r : Rendering) (c : Char) : List Char :=
  if c == '\t' then if r.marksTabs then ['^', 'I'] else [c]
  else if r.marksOthers then visible c
  else [c]

/-- Where the rendering of lines stands: the number of the last line that has one, how many empty
lines there were in a row, and whether a line is unfinished. -/
structure Rendered where
  number : Nat := 0
  blanks : Nat := 0
  isInLine : Bool := false

/-- A piece of a line, with its end or without it. -/
def Rendering.piece (r : Rendering) (line : Bytes) (isEnded : Bool) (s : Rendered) :
    Bytes × Rendered :=
  let isBlank := line.isEmpty && !s.isInLine
  let blanks := if isBlank then s.blanks + 1 else 0
  if isBlank && r.squeezes && blanks > 1 then ("", { s with blanks }) else
  let isNumbered := !s.isInLine && (if r.numbersFull then !isBlank else r.numbersAll)
  let number := if isNumbered then s.number + 1 else s.number
  let front := if isNumbered then padLeft 6 (toString number) ++ "\t" else ""
  let shown := String.ofList (line.toList.flatMap r.char)
  let finish := if isEnded then (if r.marksEnds then "$\n" else "\n") else ""
  (front ++ shown ++ finish, { number, blanks, isInLine := !isEnded })

def Rendering.block (r : Rendering) (text : Bytes) (s : Rendered) : Bytes × Rendered :=
  let parts := text.splitOn "\n"
  let (shown, s) := parts.dropLast.foldl (fun (seen, s) line =>
    let (shown, s) := r.piece line true s
    (seen ++ shown, s)) ("", s)
  let last := parts.getLastD ""
  if last.isEmpty then (shown, s)
  else
    let (rest, s) := r.piece last false s
    (shown ++ rest, s)

def renderAll (r : Rendering) (d : Descriptor) :
    Nat → Rendered → Tool (Except Errno Unit × Rendered)
  | 0, s => pure (.ok (), s)
  | fuel + 1, s => do
    match ← readBlock d 131072 enough with
    | .error number => pure (.error number, s)
    | .ok "" => pure (.ok (), s)
    | .ok text =>
      let (shown, s) := if r.isPlain then (text, s) else r.block text s
      putOutput shown
      renderAll r d fuel s

/-- Whether reading from a descriptor would find what is written. -/
def isOwnOutput (d : Descriptor) : Tool Bool := do
  match ← Program.statusOf d, ← Program.statusOf 1 with
  | .ok source, .ok target =>
    if source.identity != target.identity || target.kind != .regular then pure false else
    match ← Program.seek d 0 .current with
    | .ok offset => pure (offset < target.size)
    | .error _ => pure false
  | _, _ => pure false

def cat (arguments : List Bytes) : Tool Unit := do
  let g ← options
    [⟨'A', "show-all", .nothing⟩, ⟨'b', "number-nonblank", .nothing⟩, ⟨'e', "", .nothing⟩,
      ⟨'E', "show-ends", .nothing⟩, ⟨'n', "number", .nothing⟩, ⟨'s', "squeeze-blank", .nothing⟩,
      ⟨'t', "", .nothing⟩, ⟨'T', "show-tabs", .nothing⟩, ⟨'u', "", .nothing⟩,
      ⟨'v', "show-nonprinting", .nothing⟩] arguments
  match ← Program.statusOf 1 with
  | .error number => die s!"standard output: {number.message}"
  | .ok _ => pure ()
  let r : Rendering :=
    { numbersAll := g.has 'n', numbersFull := g.has 'b', squeezes := g.has 's'
      marksEnds := g.has 'E' || g.has 'e' || g.has 'A', marksTabs := g.has 'T' || g.has 't' || g.has 'A'
      marksOthers := g.has 'v' || g.has 'e' || g.has 't' || g.has 'A' }
  let rec showAll : List Bytes → Rendered → Tool Unit
    | [], _ => pure ()
    | name :: rest, s => do
      match ← openInput name with
      | .error number =>
        fail s!"{nameQuoted name}: {number.message}"
        showAll rest s
      | .ok d =>
        if ← isOwnOutput d then
          fail s!"{nameQuoted name}: input file is output file"
          closeInput name d
          showAll rest s
        else
          let (answer, s) ← renderAll r d enough s
          match answer with
          | .ok _ => pure ()
          | .error number => fail s!"{nameQuoted name}: {number.message}"
          closeInput name d
          showAll rest s
  showAll (inputsOf g) {}
  if (inputsOf g).contains "-" then
    match ← Program.close 0 with
    | .error number => die s!"closing standard input: {number.message}"
    | .ok _ => pure ()

def teeAll (targets : List (Bytes × Descriptor)) : Nat → Tool Unit
  | 0 => pure ()
  | fuel + 1 => do
    match ← readBlock 0 8192 enough with
    | .ok "" => pure ()
    | .error number => fail s!"read error: {number.message}"
    | .ok text =>
      targets.forM fun (name, d) => do
        match ← writeAll d text with
        | .ok _ => pure ()
        | .error number => fail s!"{nameQuoted name}: {number.message}"
      teeAll targets fuel

def tee (arguments : List Bytes) : Tool Unit := do
  let g ← options
    [⟨'a', "append", .nothing⟩, ⟨'i', "ignore-interrupts", .nothing⟩, ⟨'p', "", .nothing⟩] arguments
  if g.has 'i' then
    let _ ← Program.react Signal.int (some .ignore)
  let opened ← g.operands.mapM fun name => do
    let access : Access :=
      { writes := true, creates := true, appends := g.has 'a', truncates := !g.has 'a' }
    match ← Program.openFile name access with
    | .ok d => pure [(name, d)]
    | .error number =>
      fail s!"{nameQuoted name}: {number.message}"
      pure []
  teeAll (("standard output", 1) :: opened.flatten) enough

/-! ## Parts -/

/-- How much of a text is wanted: units from its front or its end. -/
structure Extent where
  countsBytes : Bool := false
  count : Nat := 10
  sign : Char := ' '
  isLoud : Bool := false
  isQuiet : Bool := false
  separator : Char := '\n'

/-- The form `-5` of an option for a number of lines. -/
def numberOption? (a : Bytes) : Option Bytes :=
  match a.toList with
  | '-' :: digits =>
    if !digits.isEmpty && digits.all Char.isDigit then some (String.ofList digits) else none
  | _ => none

def amountOf (text : Bytes) (countsBytes : Bool) : Tool (Char × Nat) := do
  let cs := text.toList
  let sign := if cs.head? == some '-' || cs.head? == some '+' then cs.headD ' ' else ' '
  match size? (if sign == ' ' then text else String.ofList (cs.drop 1)) with
  | some n => pure (sign, n)
  | none =>
    let what := if countsBytes then "bytes" else "lines"
    die s!"invalid number of {what}: {quoted text}"

/-- Arguments whose first one may be a number of lines with a sign. -/
def spellOut : List Bytes → List Bytes
  | a :: rest => match numberOption? a with
    | some digits => "-n" :: digits :: rest
    | none => a :: rest
  | [] => []

def extentOf (g : Given) : Tool Extent := do
  let last := (g.options.filter fun x => "nc".toList.contains x.1).getLast?
  let (sign, count) ← match last with
    | some (letter, text) => amountOf text (letter == 'c')
    | none => pure (' ', 10)
  pure { countsBytes := last.any (·.1 == 'c'), count, sign
         isLoud := g.has 'v', isQuiet := g.has 'q'
         separator := if g.has 'z' then '\x00' else '\n' }

/-- What is left of a text behind a number of ends of lines, and how many are missing. -/
def behindLines (separator : Char) : Nat → List Char → Nat × List Char
  | 0, cs => (0, cs)
  | n, [] => (n, [])
  | n + 1, c :: cs => behindLines separator (if c == separator then n else n + 1) cs

/-- Show the front of what a descriptor gives; what was read beyond it is given back. -/
def showFront (x : Extent) (d : Descriptor) : Nat → Nat → Tool (Except Errno Unit)
  | 0, _ => pure (.ok ())
  | _, 0 => pure (.ok ())
  | fuel + 1, count => do
    match ← readBlock d (if x.countsBytes then min count 8192 else 8192) enough with
    | .error number => pure (.error number)
    | .ok "" => pure (.ok ())
    | .ok text =>
      if x.countsBytes then
        print text
        showFront x d fuel (count - text.length)
      else
        let cs := text.toList
        let (missing, rest) := behindLines x.separator count cs
        print (String.ofList (cs.take (cs.length - rest.length)))
        if missing = 0 then
          if !rest.isEmpty then
            let _ ← Program.seek d (-(rest.length : Int)) .current
          pure (.ok ())
        else showFront x d fuel missing

/-- The units of a text: lines with their ends, or bytes. -/
def unitsOf (x : Extent) (text : Bytes) : List Bytes :=
  if x.countsBytes then text.toList.map fun c => String.ofList [c]
  else
    let parts := text.splitOn (String.ofList [x.separator])
    let ended := parts.dropLast.map (· ++ String.ofList [x.separator])
    match parts.getLast? with
    | some last => if last.isEmpty then ended else ended ++ [last]
    | none => ended

def showParts (x : Extent) (names : List Bytes)
    (part : Bytes → Descriptor → Tool (Except Errno Unit)) : Tool Unit := do
  let isTitled := x.isLoud || (names.length > 1 && !x.isQuiet)
  let rec go (isFirst : Bool) : List Bytes → Tool Unit
    | [] => pure ()
    | name :: rest => do
      let title := if name == "-" then "standard input" else name
      match ← openInput name with
      | .error number =>
        fail s!"cannot open {shellQuoted name} for reading: {number.message}"
        go isFirst rest
      | .ok d =>
        if isTitled then print ((if isFirst then "" else "\n") ++ s!"==> {title} <==\n")
        match ← part name d with
        | .ok _ => pure ()
        | .error number => fail s!"error reading {shellQuoted title}: {number.message}"
        closeInput name d
        go false rest
  go true names

def partOptions : List Tool.Choice :=
  [⟨'n', "lines", .value⟩, ⟨'c', "bytes", .value⟩, ⟨'q', "quiet", .nothing⟩,
    ⟨'v', "verbose", .nothing⟩, ⟨'z', "zero-terminated", .nothing⟩]

def head (arguments : List Bytes) : Tool Unit := do
  let g ← options partOptions (spellOut arguments)
  let x ← extentOf g
  showParts x (inputsOf g) fun _ d => do
    if x.sign != '-' then showFront x d enough x.count
    else match ← readWhole d with
      | .error number => pure (.error number)
      | .ok text =>
        let units := unitsOf x text
        print (String.join (units.take (units.length - x.count)))
        pure (.ok ())

/-- Microseconds between two looks at a file that may grow. -/
def followTime : Nat := 20000

def followAll (descriptors : List Descriptor) : Nat → Tool Unit
  | 0 => pure ()
  | fuel + 1 => do
    descriptors.forM fun d => do
      match ← readWhole d with
      | .ok text => if !text.isEmpty then putOutput text
      | .error _ => pure ()
    let _ ← Program.sleep followTime
    followAll descriptors fuel

def tail (arguments : List Bytes) : Tool Unit := do
  let arguments := match spellOut arguments with
    | a :: rest =>
      if a.startsWith "+" && a.length > 1 && (a.toList.drop 1).all Char.isDigit then
        "-n" :: a :: rest
      else a :: rest
    | [] => []
  let g ← options (partOptions ++
    [⟨'f', "follow", .valueOrNothing⟩, ⟨'F', "", .nothing⟩, ⟨'s', "sleep-interval", .value⟩,
      ⟨'1', "pid", .value⟩, ⟨'2', "retry", .nothing⟩]) arguments
  let x ← extentOf g
  showParts x (inputsOf g) fun _ d => do
    match ← readWhole d with
    | .error number => pure (.error number)
    | .ok text =>
      let units := unitsOf x text
      print (String.join (if x.sign == '+' then units.drop (x.count - 1)
        else units.drop (units.length - x.count)))
      pure (.ok ())
  if g.has 'f' || g.has 'F' then
    flush
    let opened ← g.operands.mapM fun name => do
      match ← openInput name with
      | .ok d =>
        let _ ← Program.seek d 0 .finish
        pure [d]
      | .error _ => pure []
    if !opened.flatten.isEmpty then followAll opened.flatten enough

/-- The lines of a text from the last one to the first one. -/
def tac (arguments : List Bytes) : Tool Unit := do
  let g ← options [⟨'s', "separator", .value⟩, ⟨'b', "", .nothing⟩, ⟨'r', "", .nothing⟩] arguments
  (inputsOf g).forM fun name => do
    match ← openInput name with
    | .error number => fail s!"failed to open {shellQuoted name} for reading: {number.message}"
    | .ok d =>
      match ← readWhole d with
      | .error number => fail s!"{nameQuoted name}: read error: {number.message}"
      | .ok text => print (String.join (unitsOf {} text).reverse)
      closeInput name d

def rev (arguments : List Bytes) : Tool Unit := do
  let g ← options [] arguments
  (inputsOf g).forM fun name => do
    match ← openInput name with
    | .error number => fail s!"cannot open {name}: {number.message}"
    | .ok d =>
      match ← readWhole d with
      | .error number => fail s!"{name}: {number.message}"
      | .ok text =>
        let lines := text.splitOn "\n"
        print ("\n".intercalate (lines.map fun l => String.ofList l.toList.reverse))
      closeInput name d

/-! ## Amounts -/

/-- Lines, words and bytes of a text, and the length of its longest line. -/
structure Amounts where
  lines : Nat := 0
  words : Nat := 0
  bytes : Nat := 0
  longest : Nat := 0

structure Measuring where
  amounts : Amounts := {}
  isInWord : Bool := false
  position : Nat := 0

def isSpaceChar (c : Char) : Bool := c == ' ' || ('\t' ≤ c && c ≤ '\r')

def Measuring.step (m : Measuring) (c : Char) : Measuring :=
  let isSpace := isSpaceChar c
  let ends := c == '\n' || c == '\r' || c == '\x0c'
  let position := if ends then 0
    else if c == '\t' then m.position / 8 * 8 + 8
    else if isShown c then m.position + 1
    else m.position
  let a := m.amounts
  { amounts :=
      { lines := if c == '\n' then a.lines + 1 else a.lines
        words := if !isSpace && !m.isInWord then a.words + 1 else a.words
        bytes := a.bytes + 1, longest := max a.longest position }
    isInWord := !isSpace, position }

def measure (d : Descriptor) : Nat → Measuring → Tool (Option Errno × Amounts)
  | 0, m => pure (none, m.amounts)
  | fuel + 1, m => do
    match ← readBlock d 16384 enough with
    | .error number => pure (some number, m.amounts)
    | .ok "" => pure (none, m.amounts)
    | .ok text => measure d fuel (text.toList.foldl Measuring.step m)

def Amounts.add (a b : Amounts) : Amounts :=
  { lines := a.lines + b.lines, words := a.words + b.words, bytes := a.bytes + b.bytes
    longest := max a.longest b.longest }

/-- The width of the columns, as the sizes of the inputs tell it. -/
def columnWidth (names : List Bytes) (isSingle : Bool) : Tool Nat := do
  if names.length ≤ 1 && isSingle then pure 1 else
  let statuses ← names.mapM fun name => do
    let answer ← if name == "-" then Program.statusOf 0 else Program.status name
    pure answer.toOption
  if (statuses.headD none).isNone then pure 1 else
  let known := statuses.filterMap fun s => s
  let total := ((known.filter (·.kind == .regular)).map (·.size)).foldl (· + ·) 0
  let least := if known.all (·.kind == .regular) then 1 else 7
  pure (max least (toString total).length)

def wc (arguments : List Bytes) : Tool Unit := do
  let g ← options
    [⟨'l', "lines", .nothing⟩, ⟨'w', "words", .nothing⟩, ⟨'c', "bytes", .nothing⟩,
      ⟨'m', "chars", .nothing⟩, ⟨'L', "max-line-length", .nothing⟩, ⟨'1', "total", .value⟩] arguments
  let isDefault := !"lwcmL".toList.any g.has
  let shown (a : Amounts) : List Nat :=
    (if isDefault || g.has 'l' then [a.lines] else []) ++
      (if isDefault || g.has 'w' then [a.words] else []) ++
      (if g.has 'm' then [a.bytes] else []) ++
      (if isDefault || g.has 'c' then [a.bytes] else []) ++ (if g.has 'L' then [a.longest] else [])
  let names := inputsOf g
  let width ← columnWidth names ((shown {}).length = 1)
  let line (a : Amounts) (name : Bytes) : Bytes :=
    " ".intercalate ((shown a).map fun n => padLeft width (toString n)) ++
      (if name.isEmpty then "" else " " ++ name) ++ "\n"
  let rec go (total : Amounts) : List Bytes → Tool Amounts
    | [] => pure total
    | name :: rest => do
      match ← openInput name with
      | .error number =>
        fail s!"{nameQuoted name}: {number.message}"
        go total rest
      | .ok d =>
        let (failure, amounts) ← measure d enough {}
        match failure with
        | some number =>
          let shownName := if g.operands.isEmpty then shellQuoted "standard input"
            else nameQuoted name
          fail s!"{shownName}: {number.message}"
        | none => pure ()
        if g.value? '1' != some "only" then
          print (line amounts (if g.operands.isEmpty then "" else name))
        closeInput name d
        go (total.add amounts) rest
  let total ← go {} names
  match g.value? '1' with
  | some "never" => pure ()
  | some "only" => print (line total "")
  | some "always" => print (line total "total")
  | _ => if names.length > 1 then print (line total "total")

end PidOne.Machine.Tool
