import PidOne.Machine.Modes
import PidOne.Machine.Shell.Options

/-!
# The shell's own commands

Those that work on the shell itself: its variables, its options, its directory and its input.
Each is given its operands and answers with its status.
-/

namespace PidOne.Machine.Shell

open Text (Bytes)
open Routine (Program)

/-! ## Variables -/

def givenValue (text : Bytes) : Bytes × Option Bytes :=
  let name := text.toList.takeWhile (· != '=')
  (String.ofList name, match text.toList.drop name.length with
    | _ :: value => some (String.ofList value)
    | [] => none)

def checkName (name : Bytes) : ShellM Unit := do
  if !isName name then fail s!"{name}: bad variable name"

def listVariables (mark : Bytes) (isListed : Variable → Bool) : ShellM Unit := do
  let listed := ((← get).store.filter isListed).mergeSort fun a b => !(b.name < a.name)
  listed.forM fun v =>
    print (mark ++ v.name ++ (match v.value with
      | some value => "=" ++ singleQuote value
      | none => "") ++ "\n")

def markCommand (name : Bytes) (arguments : List Bytes) : ShellM Nat := do
  let isConstant := name == "readonly"
  let (letters, arguments) ← readOptions [('p', false)] arguments
  let mark (v : Variable) : Variable :=
    if isConstant then { v with isConstant := true } else { v with isExported := true }
  if !letters.isEmpty || arguments.isEmpty then
    listVariables (name ++ " ") fun v => if isConstant then v.isConstant else v.isExported
  else
    arguments.forM fun a => do
      let (name, value) := givenValue a
      checkName name
      match value, (← get).named? name with
      | some value, _ => assign name (some value)
      | none, some _ => pure ()
      | none, none => assign name none
      modify fun s => ((s.named? name).map fun v => s.setVariable (mark v)).getD s
  pure 0

def localCommand (arguments : List Bytes) : ShellM Nat := do
  if (← get).hidden.isEmpty then fail "not in a function"
  arguments.forM fun a => do
    let (name, value) := givenValue a
    if name == "-" then hide name
    else
      checkName name
      hide name
      match value, (← get).named? name with
      | some value, _ => assign name (some value)
      | none, some _ => pure ()
      | none, none => assign name none
  pure 0

def unsetCommand (arguments : List Bytes) : ShellM Nat := do
  let (letters, names) ← readOptions [('v', false), ('f', false)] arguments
  names.forM fun name => do
    if (letters.getLast?).any (·.1 == 'f') then
      modify fun s => { s with functions := s.functions.filter (·.1 != name) }
    else unset name
  pure 0

def setCommand (arguments : List Bytes) : ShellM Nat := do
  if arguments.isEmpty then
    listVariables "" (·.value.isSome)
    return 0
  let (rest, x) ← changeOptions false arguments.length arguments {}
  if x.isEnded || !rest.isEmpty then modify fun s => { s with positional := rest }
  if (← get).has 'm' then
    warn "can't access tty; job control turned off"
    setOption 'm' false
  pure 0

def shiftCommand (arguments : List Bytes) : ShellM Nat := do
  let count ← match arguments with
    | a :: _ => number a
    | [] => pure 1
  let s ← get
  if count > s.positional.length then fail "can't shift that many"
  set { s with positional := s.positional.drop count, optionIndex := 1, optionOffset := none }
  pure 0

/-! ## Options of scripts -/

def getopts (known name : Bytes) (words : List Bytes) : ShellM Nat := do
  let s ← get
  let isQuiet := known.startsWith ":"
  let previous := words.getD (s.optionIndex - 2) ""
  let current : List Char := match s.optionOffset with
    | some offset => if s.optionIndex > 1 then previous.toList.drop offset else []
    | none => []
  let done (status index : Nat) (offset : Option Nat) (letter : Char) : ShellM Nat := do
    assign "OPTIND" (some (toString index))
    checkName name
    assign name (some letter.toString)
    modify fun s => { s with optionIndex := index, optionOffset := offset }
    pure status
  let start : Option (List Char × Nat) :=
    if !current.isEmpty then some (current, s.optionIndex)
    else match words[s.optionIndex - 1]? with
      | some word =>
        match word.toList with
        | '-' :: c :: cs => some (c :: cs, s.optionIndex + 1)
        | _ => none
      | none => none
  match start with
  | none => done 1 s.optionIndex none '?'
  | some ([], index) => done 1 index none '?'
  | some (['-'], index) =>
    if current.isEmpty then done 1 index none '?' else done 0 index none '?'
  | some (c :: cs, index) =>
    let length := (words.getD (index - 2) "").length
    let offset : Option Nat := some (length - cs.length)
    let letters := known.toList
    match letterIn letters c with
    | none =>
      if isQuiet then assign "OPTARG" (some c.toString)
      else
        put 2 s!"Illegal option -{c}\n"
        unset "OPTARG"
      done 0 index offset '?'
    | some false =>
      assign "OPTARG" (some "")
      done 0 index offset c
    | some true =>
      if !cs.isEmpty then
        assign "OPTARG" (some (String.ofList cs))
        done 0 index none c
      else match words[index - 1]? with
        | some value =>
          assign "OPTARG" (some value)
          done 0 (index + 1) none c
        | none =>
          if isQuiet then
            assign "OPTARG" (some c.toString)
            done 0 index offset ':'
          else
            put 2 s!"No arg for -{c} option\n"
            unset "OPTARG"
            done 0 index offset '?'
where
  /-- Whether a letter is an option, and whether it has a value. -/
  letterIn : List Char → Char → Option Bool
    | [], _ => none
    | d :: rest, c =>
      let hasValue := rest.head? == some ':'
      if d == c then some hasValue
      else match rest with
        | ':' :: rest => letterIn rest c
        | rest => letterIn rest c

def getoptsCommand (arguments : List Bytes) : ShellM Nat := do
  match ← operands arguments with
  | known :: name :: words =>
    let s ← get
    let words := if words.isEmpty then s.positional else words
    if s.optionIndex > words.length + 1 then
      set { s with optionIndex := 1, optionOffset := none }
    getopts known name words
  | _ => fail "Usage: getopts optstring var [arg...]"

/-! ## Aliases -/

def showAlias (name value : Bytes) : ShellM Unit := print s!"{name}={singleQuote value}\n"

/-- Where an alias stands in a list of all of them. -/
def aliasOrder (name : Bytes) : Nat :=
  match name.toList with
  | [] => 0
  | c :: cs => ((c :: cs).foldl (fun n c => n + c.toNat) (c.toNat * 16)) % 39

def aliasCommand (arguments : List Bytes) : ShellM Nat := do
  if arguments.isEmpty then
    let sorted := (← get).aliases.mergeSort fun a b => aliasOrder a.1 ≤ aliasOrder b.1
    sorted.forM fun (name, value) => showAlias name value
    return 0
  let codes ← arguments.mapM fun a => do
    let first := a.toList.take 1
    let more := (a.toList.drop 1).takeWhile (· != '=')
    let name := String.ofList (first ++ more)
    match a.toList.drop name.length with
    | _ :: value =>
      modify fun s =>
        let value := String.ofList value
        { s with aliases :=
            if s.aliases.any (·.1 == name) then
              s.aliases.map fun x => if x.1 == name then (name, value) else x
            else s.aliases ++ [(name, value)] }
      pure 0
    | [] =>
      match (← get).aliases.lookup name with
      | some value =>
        showAlias name value
        pure 0
      | none =>
        put 2 s!"alias: {name} not found\n"
        pure 1
  pure (codes.foldl max 0)

def unaliasCommand (arguments : List Bytes) : ShellM Nat := do
  let (letters, names) ← readOptions [('a', false)] arguments
  if !letters.isEmpty then
    modify fun s => { s with aliases := [] }
    return 0
  let codes ← names.mapM fun name => do
    let s ← get
    if s.aliases.any (·.1 == name) then
      set { s with aliases := s.aliases.filter (·.1 != name) }
      pure 0
    else
      put 2 s!"unalias: {name} not found\n"
      pure 1
  pure (codes.foldl max 0)

/-! ## The directory -/

def normalize (path : Bytes) : Bytes :=
  let parts := (path.splitOn "/").foldl (fun seen part =>
    if part.isEmpty || part == "." then seen
    else if part == ".." then seen.drop 1
    else part :: seen) []
  "/" ++ "/".intercalate parts.reverse

def isAnchored (path : Bytes) : Bool :=
  path.startsWith "/" || path == "." || path == ".." || path.startsWith "./" ||
    path.startsWith "../"

/-- Enter a directory; false when that fails. -/
def enter (path : Bytes) (isPhysical : Bool) : ShellM Bool := do
  let s ← get
  let target := if isPhysical then path
    else normalize (if path.startsWith "/" then path else s.directory ++ "/" ++ path)
  match ← Program.change (.enter target) with
  | .error _ => pure false
  | .ok _ =>
    let directory ← if isPhysical then do pure (← Program.directory) else pure target
    modify fun s => { s with directory }
    assign "OLDPWD" (some s.directory) true
    assign "PWD" (some directory) true
    pure true

def searchDirectory (path : Bytes) : List Bytes → ShellM (Option (Bytes × Bool))
  | [] => pure none
  | front :: rest => do
    let found := if front.isEmpty then path else front ++ "/" ++ path
    match ← Program.status found with
    | .ok status =>
      if status.kind == .directory then pure (some (found, !front.isEmpty))
      else searchDirectory path rest
    | .error _ => searchDirectory path rest

def cdCommand (arguments : List Bytes) : ShellM Nat := do
  let (letters, arguments) ← readOptions [('L', false), ('P', false)] arguments
  let isPhysical := (letters.getLast?).any (·.1 == 'P')
  let s ← get
  let (target, shows) := match arguments with
    | [] => ((s.get? "HOME").getD "", false)
    | "-" :: _ => ((s.get? "OLDPWD").getD "", true)
    | target :: _ => (target, false)
  let found ← if isAnchored target then pure (some (target, false)) else do
    let target := if target.isEmpty then "." else target
    searchDirectory target ((((s.get? "CDPATH").map (·.splitOn ":")).getD []) ++ [""])
  match found with
  | none => fail s!"can't cd to {target}"
  | some (path, isElsewhere) =>
    if !(← enter path isPhysical) then fail s!"can't cd to {target}"
    if shows || isElsewhere then print ((← get).directory ++ "\n")
    pure 0

def pwdCommand (arguments : List Bytes) : ShellM Nat := do
  let (letters, _) ← readOptions [('L', false), ('P', false)] arguments
  let directory ← if (letters.getLast?).any (·.1 == 'P') then do pure (← Program.directory)
    else do pure (← get).directory
  print (directory ++ "\n")
  pure 0

/-! ## The mask of new files -/

def threeBits (n : Nat) : Bytes :=
  (if n &&& 4 != 0 then "r" else "") ++ (if n &&& 2 != 0 then "w" else "") ++
    (if n &&& 1 != 0 then "x" else "")

def umaskCommand (arguments : List Bytes) : ShellM Nat := do
  let (letters, arguments) ← readOptions [('S', false)] arguments
  let mask ← Program.mask none
  match arguments with
  | [] =>
    if letters.isEmpty then print (Text.octal 4 mask ++ "\n")
    else
      let bits (shift : Nat) : Bytes := threeBits ((4095 - mask) >>> shift &&& 7)
      print s!"u={bits 6},g={bits 3},o={bits 0}\n"
  | a :: _ =>
    if a.toList.head?.any Char.isDigit then
      if !a.toList.all Text.isOctal then fail s!"Illegal number: {a}"
      let _ ← Program.mask (some (Text.readDigits 8 a.toList % 512))
    else match symbolicMode? (511 - mask % 512) false 0 a with
      | none => fail s!"Illegal mode: {a}"
      | some mode =>
        let _ ← Program.mask (some (511 - mode % 512))
  pure 0

/-! ## Input -/

/-- Read a line character by character: its characters, each with whether it may separate fields,
the last one first, and whether the line has an end. -/
def readCharacters (isRaw : Bool) :
    Nat → Bool → List (Char × Nat) → Nat → ShellM (List (Char × Nat) × Bool)
  | 0, _, seen, _ => pure (seen, false)
  | fuel + 1, isEscaped, seen, region => do
    match ← Program.read 0 1 with
    | .error number =>
      takeSignals 0
      if number = Errno.interrupted && !(← get).hasNews then
        checkInterrupt
        readCharacters isRaw fuel isEscaped seen region
      else pure (seen, false)
    | .ok text =>
      match text.toList with
      | [] => pure (seen, false)
      | c :: _ =>
        if c == '\x00' then readCharacters isRaw fuel isEscaped seen region
        else if isEscaped then
          let seen := if c == '\n' then seen else (c, 0) :: seen
          readCharacters isRaw fuel false seen (region + 1)
        else if c == '\\' && !isRaw then readCharacters isRaw fuel true seen region
        else if c == '\n' then pure (seen, true)
        else readCharacters isRaw fuel false ((c, region) :: seen) region

/-- How far a line has been split. Positions count the characters of the line. -/
structure Splitting where
  start : Nat := 0
  /-- From where on the rest of the line does not count. -/
  cut : Option Nat := none
  /-- How many fields are still wanted; the last one takes the rest. -/
  wanted : Nat
  isAfterBlank : Bool := false
  /-- Where fields begin and end, the last one first. -/
  fields : List (Nat × Nat) := []

/-- One character of a line that is split. Characters of the region zero do not count here. -/
def Splitting.step (separators : List Char) (x : Splitting) (position : Nat) (c : Char) :
    Splitting :=
  let isSeparator := separators.contains c
  let isBlank := isSeparator && isBlankSeparator c
  if x.wanted = 0 then
    if isBlank then { x with cut := x.cut.or (some position) }
    else
      { x with
        cut := if isSeparator && x.isAfterBlank then x.cut else none
        isAfterBlank := false }
  else
    let isBehind := x.isAfterBlank
    let x := if isBehind then { x with start := if isSeparator then position + 1 else position }
      else x
    if isBehind && isBlank then x
    else if isSeparator && !isBehind then
      if position = x.start && isBlank then { x with start := position + 1, isAfterBlank := false }
      else if x.wanted = 1 then
        { x with wanted := 0, cut := some position, isAfterBlank := isBlank }
      else
        { x with
          wanted := x.wanted - 1, isAfterBlank := isBlank, start := position + 1
          fields := (x.start, position) :: x.fields }
    else { x with isAfterBlank := false }

def splitLine (separators : List Char) (wanted : Nat) (line : List (Char × Nat)) : List Bytes :=
  let x := (line.zip (List.range line.length)).foldl (fun (x, region) ((c, r), position) =>
    let x := if r != region then { x with isAfterBlank := false } else x
    (if r = 0 then x else x.step separators position c, r)) (({ wanted } : Splitting), 1)
  let cs := line.map (·.1)
  let text (start finish : Nat) : Bytes := String.ofList ((cs.take finish).drop start)
  let last := text x.1.start (x.1.cut.getD cs.length)
  x.1.fields.reverse.map (fun (start, finish) => text start finish) ++
    if last.isEmpty then [] else [last]

def readCommand (arguments : List Bytes) : ShellM Nat := do
  let (letters, names) ← readOptions [('p', true), ('r', false)] arguments
  if names.isEmpty then fail "arg count"
  let isRaw := letters.any (·.1 == 'r')
  let (seen, isWhole) ← readCharacters isRaw Reader.enough false [] 1
  let found := splitLine (← get).separators names.length seen.reverse
  (names.zip (List.range names.length)).forM fun (name, i) => do
    checkName name
    assign name (some (found.getD i ""))
  pure (if isWhole then 0 else 1)

/-! ## Limits -/

def limits : List (Char × Bytes × Bytes) :=
  [('t', "time(seconds)       ", "unlimited"), ('f', "file(blocks)        ", "unlimited"),
    ('d', "data(kbytes)        ", "unlimited"), ('s', "stack(kbytes)       ", "8192"),
    ('c', "coredump(blocks)    ", "0"), ('m', "memory(kbytes)      ", "unlimited"),
    ('l', "locked memory(kbytes)", "8192"), ('p', "process             ", "unlimited"),
    ('n', "nofiles             ", "1048576"), ('v', "vmemory(kbytes)     ", "unlimited"),
    ('w', "locks               ", "unlimited"), ('r', "rtprio              ", "0")]

def ulimitCommand (arguments : List Bytes) : ShellM Nat := do
  let known := ('H', false) :: ('S', false) :: ('a', false) :: limits.map fun x => (x.1, false)
  let (letters, arguments) ← readOptions known arguments
  if letters.any (·.1 == 'a') then
    limits.forM fun (_, name, value) => print s!"{name} {value}\n"
    return 0
  let chosen := letters.filter fun x => x.1 != 'H' && x.1 != 'S'
  let letter := (chosen.getLast?).elim 'f' (·.1)
  match arguments with
  | [] =>
    print (((limits.lookup letter).elim "" (·.2)) ++ "\n")
    pure 0
  | [a] => if a == "unlimited" || isNumber a then pure 0 else fail "bad number"
  | _ => fail "too many arguments"

end PidOne.Machine.Shell
