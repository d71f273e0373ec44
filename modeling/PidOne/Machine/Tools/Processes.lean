import PidOne.Machine.Image
import PidOne.Machine.Shell.Signals
import PidOne.Machine.Tools.Input
import PidOne.Text.Calendar

/-!
# Tools that work on processes

Programs that wait, that run other programs under changed conditions, and that send signals.
-/

namespace PidOne.Machine.Tool

open Text (Bytes)
open Routine (Program)

/-! ## Time -/

def unitOf? : List Char → Option Nat
  | [] => some 1
  | ['s'] => some 1
  | ['m'] => some 60
  | ['h'] => some 3600
  | ['d'] => some 86400
  | _ => none

/-- More microseconds than any run takes. -/
def forever : Nat := 1000000000000000

/-- A span of time in microseconds, rounded up. -/
def interval? (text : Bytes) : Option Nat := do
  let cs := text.toList.dropWhile fun c => c == ' ' || ('\t' ≤ c && c ≤ '\r')
  let cs := if cs.head? == some '+' then cs.drop 1 else cs
  let (magnitude, rest, _) ← Text.magnitude? Text.extendedPrecision cs
  let unit ← unitOf? rest
  match magnitude with
  | .notNumber => none
  | .infinite => some forever
  | .finite significand exponent =>
    let (n, d) := Text.quotient significand exponent
    some (min forever ((n * unit * 1000000 + d - 1) / d))

def sleep (arguments : List Bytes) : Tool Unit := do
  let g ← options [] arguments
  if g.operands.isEmpty then missingOperand
  let spans ← g.operands.mapM fun a => do
    match interval? a with
    | some n => pure n
    | none =>
      fail s!"invalid time interval {quoted a}"
      pure 0
  if (← get).code != 0 then tryHelp
  let _ ← Program.sleep (spans.foldl (· + ·) 0)

def date (arguments : List Bytes) : Tool Unit := do
  let g ← options [⟨'u', "utc", .nothing⟩] arguments
  let form ← match g.operands with
    | [] => pure "%a %b %d %H:%M:%S %Z %Y"
    | form :: rest =>
      if !form.startsWith "+" then die s!"invalid date {quoted form}"
      match rest with
      | [] => pure (String.ofList (form.toList.drop 1))
      | extra :: _ => extraOperand extra
  printLine (String.ofList (Text.formatTime (← Program.clock) form.toList))

/-! ## Other programs -/

def value? (environment : List Bytes) (name : Bytes) : Option Bytes :=
  (environment.find? fun text => text.startsWith (name ++ "=")).map fun text =>
    String.ofList (text.toList.drop (name.length + 1))

/-- Execute a file; one without a known form is a script for the shell. -/
def executeFile (path : Bytes) (arguments environment : List Bytes) : Tool Errno := do
  let number ← Program.exec path arguments environment
  if number = Errno.badExecutable then
    Program.exec "/bin/sh" ("/bin/sh" :: path :: arguments.drop 1) environment
  else pure number

def tryDirectories (name : Bytes) (arguments environment : List Bytes) :
    List Bytes → Bool → Tool Errno
  | [], isDenied => pure (if isDenied then Errno.accessDenied else Errno.noEntry)
  | directory :: rest, isDenied => do
    let number ← executeFile (if directory.isEmpty then name else directory ++ "/" ++ name)
      arguments environment
    if number = Errno.accessDenied then tryDirectories name arguments environment rest true
    else if number = Errno.noEntry || number = Errno.notDirectory then
      tryDirectories name arguments environment rest isDenied
    else pure number

/-- Become another program, looked for on the search path: the answer tells why that failed. -/
def become (arguments environment : List Bytes) : Tool Errno := do
  flush
  let name := arguments.headD ""
  if name.isEmpty then pure Errno.noEntry
  else if name.contains '/' then executeFile name arguments environment
  else if name.length > longestName then pure Errno.nameTooLong
  else
    let path := (value? environment "PATH").getD "/bin:/usr/bin"
    tryDirectories name arguments environment (path.splitOn ":") false

def refusal (number : Errno) : Nat := if number = Errno.noEntry then 127 else 126

def becomeOr (arguments environment : List Bytes) (front : Bytes) : Tool Unit := do
  let number ← become arguments environment
  let program := arguments.headD ""
  die s!"{front}{shellQuoted program}: {number.message}" (refusal number)

def isAssignment (text : Bytes) : Bool := text.contains '='

def variableName (text : Bytes) : Bytes := String.ofList (text.toList.takeWhile (· != '='))

def removeVariable (name : Bytes) (environment : List Bytes) : List Bytes :=
  environment.filter fun text => !text.startsWith (name ++ "=")

/-- A variable keeps its place among the others. -/
def setVariable (text : Bytes) (environment : List Bytes) : List Bytes :=
  let name := variableName text
  if environment.any (·.startsWith (name ++ "=")) then
    environment.map fun old => if old.startsWith (name ++ "=") then text else old
  else environment ++ [text]

def env (arguments : List Bytes) : Tool Unit := do
  let choices : List Choice :=
    [⟨'i', "ignore-environment", .nothing⟩, ⟨'0', "null", .nothing⟩, ⟨'u', "unset", .value⟩,
      ⟨'C', "chdir", .value⟩, ⟨'v', "debug", .nothing⟩, ⟨'S', "split-string", .value⟩]
  let g ← options choices arguments false 125
  let isDashed := g.operands.head? == some "-"
  let operands := if isDashed then g.operands.drop 1 else g.operands
  let operands := match g.value? 'S' with
    | some text => (text.splitOn " ").filter (· != "") ++ operands
    | none => operands
  let inherited := (← get).environment
  let start := if g.has 'i' || isDashed then [] else inherited
  let unset := (g.options.filter (·.1 == 'u')).map (·.2)
  match unset.find? fun name => name.isEmpty || isAssignment name with
  | some name => die s!"cannot unset {shellQuoted name}: {Errno.invalid.message}" 125
  | none => pure ()
  let start := unset.foldl (fun e name => removeVariable name e) start
  let command := operands.dropWhile isAssignment
  let environment := (operands.takeWhile isAssignment).foldl (fun e text => setVariable text e) start
  if command.isEmpty then
    if g.has 'C' then misuse "must specify command with --chdir (-C)" 125
    let finish := if g.has '0' then "\x00" else "\n"
    environment.forM fun text => print (text ++ finish)
  else
    if g.has '0' then misuse "cannot specify --null (-0) with command" 125
    match g.value? 'C' with
    | some path =>
      match ← Program.change (.enter path) with
      | .ok _ => pure ()
      | .error number => die s!"cannot change directory to {shellQuoted path}: {number.message}" 125
    | none => pure ()
    let number ← become command environment
    let program := command.headD ""
    fail s!"{shellQuoted program}: {number.message}" (refusal number)
    -- A line that names an interpreter gives all its options in one word.
    if number = Errno.noEntry && program.any fun c => c == ' ' || ('\t' ≤ c && c ≤ '\r') then
      warn "use -[v]S to pass options in shebang lines"

def printenv (arguments : List Bytes) : Tool Unit := do
  let g ← options [⟨'0', "null", .nothing⟩] arguments false 2
  let finish := if g.has '0' then "\x00" else "\n"
  let environment := (← get).environment
  if g.operands.isEmpty then environment.forM fun text => print (text ++ finish)
  else
    g.operands.forM fun name => do
      match value? environment name with
      | some value => if name.contains '=' then setCode 1 else print (value ++ finish)
      | none => setCode 1

def nohup (arguments : List Bytes) : Tool Unit := do
  let g ← options [] arguments false 125
  if g.operands.isEmpty then missingOperand 125
  let _ ← Program.react 1 (some .ignore)
  becomeOr g.operands (← get).environment "failed to run command "

def nice (arguments : List Bytes) : Tool Unit := do
  let arguments := match arguments with
    | a :: rest =>
      let digits := (a.toList.drop 1).dropWhile fun c => c == '-' || c == '+'
      if a.startsWith "-" && !digits.isEmpty && digits.all Char.isDigit then
        "-n" :: String.ofList (a.toList.drop 1) :: rest
      else arguments
    | [] => []
  let g ← options [⟨'n', "adjustment", .value⟩] arguments false 125
  match g.value? 'n' with
  | some text =>
    let digits := text.toList.dropWhile fun c => c == '-' || c == '+'
    if digits.isEmpty || !digits.all Char.isDigit then
      die s!"invalid adjustment {quoted text}" 125
  | none => pure ()
  if g.operands.isEmpty then
    if g.has 'n' then misuse "a command must be given with an adjustment" 125
    printLine "0"
  else becomeOr g.operands (← get).environment ""

/-- Wait for a child, whatever happens meanwhile. -/
def awaitChild (pid : Pid) : Nat → Tool RawStatus
  | 0 => pure 0
  | fuel + 1 => do
    match ← Program.wait (.child pid) true with
    | .ok (some (_, raw)) => pure raw
    | .error number =>
      if number = Errno.interrupted then awaitChild pid fuel else pure 0
    | .ok none => awaitChild pid fuel

/-- The programs of some collections call themselves by the last part of their name. -/
def useShortName : Tool Unit := do setName (baseName (← get).name)

/-- Become another program, with the wording of these collections. -/
def becomeInSession (arguments : List Bytes) : Tool Unit := do
  let number ← become arguments (← get).environment
  let program := arguments.headD ""
  die s!"failed to execute {program}: {number.message}" (refusal number)

/-- A leader of a group cannot have a new session, but its child can. -/
def setsid (arguments : List Bytes) : Tool Unit := do
  let choices : List Choice :=
    [⟨'c', "ctty", .nothing⟩, ⟨'f', "fork", .nothing⟩, ⟨'w', "wait", .nothing⟩]
  let g ← options choices arguments false
  useShortName
  if g.operands.isEmpty then misuse "no command specified"
  let self ← Program.identity
  if g.has 'f' || self.group == self.pid then
    match ← Program.fork with
    | some pid =>
      if g.has 'w' then
        let raw ← awaitChild pid enough
        if !raw.hasExited then
          die s!"child {pid} did not exit normally: Success" (Shell.codeOf raw - 128)
        quit (Shell.codeOf raw)
      else quit 0
    | none => pure ()
  match ← Program.setSession with
  | .error number => die s!"setsid failed: {number.message}"
  | .ok _ => pure ()
  if g.has 'c' then
    die s!"failed to set the controlling terminal: {(25 : Errno).message}"
  becomeInSession g.operands

/-! ## Timeouts -/

/-- The signal of a number or of a name, with or without the front that names share. -/
def signalNamed? (text : Bytes) : Option Signal :=
  let name := text.toUpper
  let name := if name.startsWith "SIG" then String.ofList (name.toList.drop 3) else name
  if name == "IO" || name == "POLL" then some 29
  else if name == "CLD" then some 17
  else if name == "IOT" then some 6
  else Shell.signalFrom? 1 name

/-- Microseconds between two looks at a child. -/
def lookTime : Nat := 2000

/-- Wait until a child has ended or a time has come: how it has ended. -/
def awaitUntil (pid : Pid) (limit : Option Nat) (deliver : Signal → Tool Unit) :
    Nat → Tool (Option RawStatus)
  | 0 => pure none
  | fuel + 1 => do
    match ← Program.wait (.child pid) false with
    | .ok (some (_, raw)) => pure (some raw)
    | .error _ => pure (some 0)
    | .ok none =>
      let now ← Program.clock
      if limit.any (· ≤ now) then pure none else
      (← Program.caught 0).forM fun s => if s != Signal.child then deliver s else pure ()
      let _ ← Program.sleep (min lookTime ((limit.getD (now + lookTime)) - now))
      awaitUntil pid limit deliver fuel

/-- Send a signal to a child, and to the whole group unless it stays in the foreground. -/
def sendOn (pid : Pid) (isForeground : Bool) (s : Signal) : Tool Unit := do
  let _ ← Program.kill pid s
  if !isForeground then
    let _ ← Program.react s (some .ignore)
    let _ ← Program.kill 0 s
    if s != Signal.kill && s != Signal.cont then
      let _ ← Program.kill pid Signal.cont
      let _ ← Program.kill 0 Signal.cont

def timeout (arguments : List Bytes) : Tool Unit := do
  let choices : List Choice :=
    [⟨'f', "foreground", .nothing⟩, ⟨'k', "kill-after", .value⟩,
      ⟨'p', "preserve-status", .nothing⟩, ⟨'s', "signal", .value⟩, ⟨'v', "verbose", .nothing⟩]
  let g ← options choices arguments false 125
  let span (text : Bytes) : Tool Nat := do
    match interval? text with
    | some n => pure n
    | none => misuse s!"invalid time interval {quoted text}" 125
  let killAfter ← (g.value? 'k').mapM span
  let s ← match g.value? 's' with
    | none => pure Signal.term
    | some text => match signalNamed? text with
      | some s => pure s
      | none => misuse s!"{quoted text}: invalid signal" 125
  match g.operands with
  | duration :: name :: operands =>
    let limit ← span duration
    let isForeground := g.has 'f'
    if !isForeground then
      let _ ← Program.setGroup 0 0
    let caught : List Signal := [Signal.term, 1, 2, 3, 14]
    caught.forM fun s => do
      let _ ← Program.react s (some .catch)
    let _ ← Program.react Signal.child (some .catch)
    match ← Program.fork with
    | none => becomeOr (name :: operands) (← get).environment "failed to run command "
    | some pid =>
      let started ← Program.clock
      let deliver (s : Signal) : Tool Unit := sendOn pid isForeground s
      let conclude (raw : RawStatus) (isLate : Bool) : Tool Unit := do
        let code := Shell.codeOf raw
        if !isLate && !raw.hasExited then
          let s := raw.termination.toInt
          let _ ← Program.react s (some .default)
          let self ← Program.identity
          let _ ← Program.kill self.pid s
        if isLate && !g.has 'p' && code != 137 then quit 124 else quit code
      let announce (s : Signal) : Tool Unit := do
        if g.has 'v' then
          warn s!"sending signal {Shell.nameOf s} to command {shellQuoted name}"
      match ← awaitUntil pid (if limit = 0 then none else some (started + limit)) deliver enough with
      | some raw => conclude raw false
      | none =>
        announce s
        deliver s
        let now ← Program.clock
        match ← awaitUntil pid (killAfter.map (now + ·)) deliver enough with
        | some raw => conclude raw true
        | none =>
          announce Signal.kill
          deliver Signal.kill
          conclude (← awaitChild pid enough) true
  | _ => tryHelp 125

/-! ## Signals -/

def killUsage : Bytes :=
  "\nUsage:\n kill [options] <pid> [...]\n\nOptions:\n" ++
  " <pid> [...]            send signal to every <pid> listed\n" ++
  " -<signal>, -s, --signal <signal>\n" ++
  "                        specify the <signal> to be sent\n" ++
  " -q, --queue <value>    integer value to be sent with the signal\n" ++
  " -l, --list=[<signal>]  list all signal names, or convert one to a name\n" ++
  " -L, --table            list all signal names in a nice table\n\n" ++
  " -h, --help     display this help and exit\n" ++
  " -V, --version  output version information and exit\n\n" ++
  "For more details see kill(1).\n"

def listedName (s : Signal) : Bytes :=
  if s = 16 then "STKFLT" else if s = 29 then "POLL" else Shell.nameOf s

def listedSignals : List Signal := (List.range 31).map fun (n : Nat) => n + 1

def whole? (text : Bytes) : Option Int :=
  let cs := text.toList.dropWhile fun c => c == ' ' || ('\t' ≤ c && c ≤ '\r')
  let (isNegative, digits) := splitSign cs
  if digits.isEmpty || !digits.all Char.isDigit then none
  else
    let n : Int := Text.readDigits 10 digits
    some (if isNegative then -n else n)

/-- The words of a list in lines, of which none is too long. -/
def wrapWords (limit : Nat) (words : List Bytes) : List Bytes :=
  (words.foldl (fun (ls : List Bytes) word =>
    match ls with
    | line :: rest =>
      if line.length + 1 + word.length < limit then (line ++ " " ++ word) :: rest
      else word :: line :: rest
    | [] => [word]) []).reverse

def rowsOf {α : Type} (width : Nat) : Nat → List α → List (List α)
  | 0, _ => []
  | fuel + 1, xs => if xs.isEmpty then [] else xs.take width :: rowsOf width fuel (xs.drop width)

def signalTable : Bytes :=
  let cell (s : Signal) : Bytes :=
    let number := toString s
    let name := listedName s
    (if number.length < 2 then " " else "") ++ number ++ " " ++ name ++
      String.ofList (List.replicate (7 - name.length) ' ')
  unlines ((rowsOf 7 7 listedSignals).map fun row =>
    let line := " ".intercalate (row.map cell)
    if row.length = 7 then String.ofList ((line.toList.reverse.dropWhile (· == ' ')).reverse)
    else line ++ " ")

structure Order where
  signal : Option Signal := some Signal.term
  targets : List Bytes := []

mutual

/-- Read the arguments of a command that sends signals, options and targets in any order. -/
def readOrder : Nat → List Bytes → Order → Tool Order
  | 0, _, o => pure o
  | _, [], o => pure o
  | fuel + 1, a :: rest, o => do
    match a.toList with
    | ['-', '-'] => pure { o with targets := o.targets ++ rest }
    | '-' :: '-' :: _ =>
      match readLong [⟨'l', "list", .valueOrNothing⟩, ⟨'q', "queue", .value⟩,
          ⟨'s', "signal", .value⟩, ⟨'L', "table", .nothing⟩] (String.ofList (a.toList.drop 2))
          rest with
      | .error _ => invalidLetter '\x00'
      | .ok (letter, value, rest) => orderBy fuel letter value rest o
    | '-' :: c :: cs =>
      if c == 'l' then orderBy fuel 'l' (String.ofList cs) rest o
      else if c == 'L' then orderBy fuel 'L' "" rest o
      else if c == 's' || c == 'q' then
        match cs, rest with
        | [], [] => invalidLetter c
        | [], value :: rest => orderBy fuel c value rest o
        | cs, rest => orderBy fuel c (String.ofList cs) rest o
      else if c.isDigit then
        let group : Int := -(Text.digitValue c)
        match ← Program.kill group (o.signal.getD (-1)) with
        | .ok _ => quit 0
        | .error _ => quit 1
      else invalidLetter c
    | _ => readOrder fuel rest { o with targets := o.targets ++ [a] }

def orderBy : Nat → Char → Bytes → List Bytes → Order → Tool Order
  | 0, _, _, _, o => pure o
  | fuel + 1, letter, value, rest, o => do
    match letter with
    | 's' => readOrder fuel rest { o with signal := signalNamed? value }
    | 'q' => readOrder fuel rest o
    | 'L' =>
      print signalTable
      quit 0
    | _ =>
      let asked := if value.isEmpty then rest.head? else some value
      match asked with
      | none =>
        print (unlines (wrapWords 79 (listedSignals.map listedName)))
        quit 0
      | some text =>
        match whole? text, signalNamed? text with
        | some n, _ =>
          if 1 ≤ n && n ≤ 31 then printLine (listedName n)
          else warn s!"unknown signal name {text}"
        | none, some s =>
          if s ≤ 31 then printLine (toString s) else warn s!"unknown signal name {text}"
        | none, none => warn s!"unknown signal name {text}"
        quit 0

def invalidLetter (c : Char) : Tool Order := do
  warn s!"invalid argument {String.ofList [c]}"
  putError killUsage
  quit 1

end

def killTargets (o : Order) : Tool Unit := do
  o.targets.forM fun text => do
    match whole? text with
    | none =>
      warn s!"failed to parse argument: {quoted text}"
      quit 1
    | some target =>
      match ← Program.kill target (o.signal.getD (-1)) with
      | .ok _ => pure ()
      | .error number => fail s!"({target}): {number.message}"

def kill (arguments : List Bytes) : Tool Unit := do
  if arguments.isEmpty then
    putError killUsage
    quit 1
  -- The first argument that names a signal does so wherever it stands.
  let named? (a : Bytes) : Option Signal :=
    match a.toList with
    | '-' :: c :: cs =>
      if c == '-' then none
      else if c.isDigit then (whole? (String.ofList (c :: cs))).bind fun n =>
        if n ≤ 64 then some n else none
      else if c.isUpper || cs.length > 1 then signalNamed? (String.ofList (c :: cs))
      else none
    | _ => none
  let first? := arguments.findIdx? fun a => (named? a).isSome
  let (signal, arguments) := match first? with
    | some k => ((named? (arguments.getD k "")).getD Signal.term, arguments.eraseIdx k)
    | none => (Signal.term, arguments)
  let o ← readOrder (2 * arguments.length + 2) arguments { signal := some signal }
  if o.targets.isEmpty then
    putError killUsage
    quit 1
  killTargets o

/-! ## The user and the system -/

def id (arguments : List Bytes) : Tool Unit := do
  let g ← options (letters "ugGnrz") arguments
  match g.operands with
  | [] => pure ()
  | user :: _ => if user != "root" then die s!"{shellQuoted user}: no such user"
  if g.has 'u' || g.has 'g' || g.has 'G' then printLine (if g.has 'n' then "root" else "0")
  else if g.has 'n' || g.has 'r' then
    die "printing only names or real IDs requires -u, -g, or -G"
  else printLine "uid=0(root) gid=0(root) groups=0(root)"

def tell (choices answer : String) (arguments : List Bytes) : Tool Unit := do
  let g ← options (letters choices) arguments
  match g.operands with
  | extra :: _ => extraOperand extra
  | [] => printLine answer

def uname (arguments : List Bytes) : Tool Unit := do
  let g ← options (letters "asnrvmpio") arguments
  match g.operands with
  | extra :: _ => extraOperand extra
  | [] =>
    let parts : List (Char × Bytes) :=
      [('s', "Linux"), ('n', "localhost"), ('r', "6.1.0"), ('v', "#1 SMP"), ('m', "x86_64"),
        ('o', "GNU/Linux")]
    let shown := parts.filter fun (letter, _) =>
      g.has 'a' || g.has letter || (g.options.isEmpty && letter == 's')
    printLine (" ".intercalate (shown.map (·.2)))

def pwd (arguments : List Bytes) : Tool Unit := do
  let g ← options [⟨'L', "logical", .nothing⟩, ⟨'P', "physical", .nothing⟩] arguments
  if !g.operands.isEmpty then warn "ignoring non-option arguments"
  printLine (← Program.directory)

def tty (arguments : List Bytes) : Tool Unit := do
  let g ← options [⟨'s', "silent", .nothing⟩] arguments true 2
  match g.operands with
  | extra :: _ => extraOperand extra 2
  | [] =>
    if !g.has 's' then printLine "not a tty"
    quit 1

end PidOne.Machine.Tool
