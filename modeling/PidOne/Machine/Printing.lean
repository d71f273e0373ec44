import PidOne.Machine.Layout

/-!
# Echo and formatted printing

The texts that `echo` and `printf` write. The shell's own versions and the programs of the same
names differ in the escapes they know, in the conversions and in their complaints.
-/

namespace PidOne.Machine

open Text (Bytes isOctal isHex readDigits)

/-- Who runs a command of a name that both know: the shell itself, or a program. -/
inductive Provider
  | builtin
  | program
  deriving DecidableEq, Repr

/-- A text in quotes, in which what cannot be printed stands as an octal number. -/
def quoted (text : Bytes) : Bytes :=
  let shown (c : Char) : List Char :=
    match c with
    | '\'' => ['\\', '\'']
    | '\\' => ['\\', '\\']
    | '\x07' => ['\\', 'a']
    | '\x08' => ['\\', 'b']
    | '\x0c' => ['\\', 'f']
    | '\n' => ['\\', 'n']
    | '\r' => ['\\', 'r']
    | '\t' => ['\\', 't']
    | '\x0b' => ['\\', 'v']
    | c =>
      if ' ' ≤ c && c ≤ '~' then [c]
      else
        let digits := Nat.toDigits 8 c.toNat
        '\\' :: List.replicate (3 - digits.length) '0' ++ digits
  String.ofList ('\'' :: text.toList.flatMap shown ++ ['\''])

/-! ## Escapes -/

def byteOf (base : Nat) (digits : List Char) : Char := Text.byte (readDigits base digits)

def simpleEscape? : Char → Option Char
  | 'a' => some '\x07'
  | 'b' => some '\x08'
  | 'e' => some '\x1b'
  | 'f' => some '\x0c'
  | 'n' => some '\n'
  | 'r' => some '\r'
  | 't' => some '\t'
  | 'v' => some '\x0b'
  | '\\' => some '\\'
  | _ => none

/-- An escape from behind its backslash on: what it stands for, and the rest. -/
def escape? (provider : Provider) (cs : List Char) : Option (Char × List Char) :=
  match cs with
  | [] => none
  | c :: rest =>
    if isOctal c then
      let digits := (cs.take 3).takeWhile isOctal
      some (byteOf 8 digits, cs.drop digits.length)
    else
      let digits := (rest.take 2).takeWhile isHex
      if c == 'x' && provider == .program && !digits.isEmpty then
        some (byteOf 16 digits, rest.drop digits.length)
      else (simpleEscape? c).map (·, rest)

/-- Text with its escapes replaced, and whether `\c` cut it short. Octal escapes may have a zero
in front. -/
def unescape (provider : Provider) (text : Bytes) : List Char × Bool :=
  let rec go : Nat → List Char → List Char → List Char × Bool
    | 0, _, seen => (seen, false)
    | _, [], seen => (seen, false)
    | _ + 1, '\\' :: 'c' :: _, seen => (seen, true)
    | fuel + 1, '\\' :: '0' :: rest, seen =>
      let digits := (rest.take 3).takeWhile isOctal
      go fuel (rest.drop digits.length) (byteOf 8 digits :: seen)
    | fuel + 1, '\\' :: rest, seen =>
      match escape? provider rest with
      | some (c, rest) => go fuel rest (c :: seen)
      | none => go fuel rest ('\\' :: seen)
    | fuel + 1, c :: rest, seen => go fuel rest (c :: seen)
  let (seen, isCut) := go (text.length + 1) text.toList []
  (seen.reverse, isCut)

/-! ## Echo -/

/-- The program: only `-n`, `-e` and `-E` in front are options, and escapes need `-e`. -/
def echoProgram (arguments : List Bytes) : Bytes :=
  let isOption (a : Bytes) := a.length > 1 && a.startsWith "-" &&
    (a.toList.drop 1).all ("neE".toList.contains ·)
  let options := (arguments.takeWhile isOption).flatMap fun a => a.toList.drop 1
  let text := " ".intercalate (arguments.dropWhile isOption)
  let escapes := (options.reverse.find? (fun c => c == 'e' || c == 'E')) == some 'e'
  let (cs, isCut) := if escapes then unescape .program text else (text.toList, false)
  String.ofList (if isCut || options.contains 'n' then cs else cs ++ ['\n'])

/-- The shell's own: `-n` is an option, and escapes are always replaced. -/
def echoBuiltin : List Bytes → Bytes
  | "-n" :: rest => String.ofList (unescape .builtin (" ".intercalate rest)).1
  | arguments =>
    let (cs, isCut) := unescape .builtin (" ".intercalate arguments)
    String.ofList (if isCut then cs else cs ++ ['\n'])

/-! ## Formatted printing -/

inductive Printing.Event
  | text (text : Bytes)
  | complaint (text : Bytes)

/-- The course of printing: what has happened so far, and what is left to be printed. -/
structure Printing where
  provider : Provider
  /-- The last event first. -/
  events : List Printing.Event := []
  /-- Text since the last event, the last character first. -/
  seen : List Char := []
  arguments : List Bytes := []
  isFaulty : Bool := false
  /-- The exit code if printing has stopped. -/
  stopped : Option Nat := none

namespace Printing

def put (p : Printing) (cs : List Char) : Printing := { p with seen := cs.reverse ++ p.seen }

def flush (p : Printing) : Printing :=
  if p.seen.isEmpty then p
  else { p with events := .text (String.ofList p.seen.reverse) :: p.events, seen := [] }

def complain (p : Printing) (text : Bytes) (isFault : Bool := true) : Printing :=
  let p := p.flush
  { p with events := .complaint text :: p.events, isFaulty := p.isFaulty || isFault }

def stop (p : Printing) (code : Nat) : Printing := { p with stopped := some code }

def take (p : Printing) : Option Bytes × Printing :=
  match p.arguments with
  | a :: rest => (some a, { p with arguments := rest })
  | [] => (none, p)

def check (p : Printing) (argument : Bytes) (isFound : Bool) (rest : List Char) (isOut : Bool) :
    Printing :=
  let range := "Numerical result out of range"
  match p.provider with
  | .builtin =>
    if !isFound && !rest.isEmpty then p.complain s!"{argument}: expected numeric value"
    else if !rest.isEmpty then p.complain s!"{argument}: not completely converted"
    else if isOut then p.complain s!"{argument}: {range}"
    else p
  | .program =>
    if isOut then p.complain s!"{quoted argument}: {range}"
    else if !isFound && !rest.isEmpty then
      p.complain s!"{quoted argument}: expected a numeric value"
    else if !rest.isEmpty then p.complain s!"{quoted argument}: value not completely converted"
    else p

def quotedCode? (p : Printing) (argument : Bytes) : Option (Nat × Printing) :=
  let isQuote (c : Char) : Bool := c == '\'' || c == '"'
  match p.provider, argument.toList with
  | .builtin, q :: rest =>
    if isQuote q then some ((rest.head?).elim 0 Char.toNat, p) else none
  | .program, q :: c :: rest =>
    if !isQuote q then none
    else if rest.isEmpty then some (c.toNat, p)
    else some (c.toNat, p.complain (String.ofList ("warning: ".toList ++ rest ++
      ": character(s) following character constant have been ignored".toList)) false)
  | _, _ => none

def integer (p : Printing) (clamp : Int → Int × Bool) : Int × Printing :=
  match p.take with
  | (none, p) => (0, p)
  | (some a, p) =>
    match p.quotedCode? a with
    | some (n, p) => (n, p)
    | none =>
      match leadingInteger a.toList with
      | some (n, rest) =>
        let (n, isOut) := clamp n
        (n, p.check a true rest isOut)
      | none => (0, p.check a false a.toList false)

def precisionOf : Provider → Text.Precision
  | .builtin => Text.doublePrecision
  | .program => Text.extendedPrecision

def real (p : Printing) : Text.Real × Printing :=
  let zero : Text.Real := ⟨false, .finite 0 0⟩
  match p.take with
  | (none, p) => (zero, p)
  | (some a, p) =>
    match p.quotedCode? a with
    | some (n, p) => (⟨false, .finite n 0⟩, p)
    | none =>
      let (isNegative, cs) := splitSign (a.toList.dropWhile isSpace)
      match Text.magnitude? (precisionOf p.provider) cs with
      | some (m, rest, isOut) => (⟨isNegative, m⟩, p.check a true rest isOut)
      | none => (zero, p.check a false a.toList false)

def amount (p : Printing) (cs : List Char) (isWidth : Bool) :
    Option Int × Printing × List Char :=
  match cs with
  | '*' :: rest =>
    let argument := p.arguments.headD ""
    let (n, p) := p.integer clampSigned
    if p.provider == .program && n.natAbs > 2147483647 then
      let what := if isWidth then "field width" else "precision"
      (none, (p.complain s!"invalid {what}: {quoted argument}").stop 1, rest)
    else (some n, p, rest)
  | cs =>
    let digits := cs.takeWhile Char.isDigit
    (if digits.isEmpty then none else some (readDigits 10 digits : Nat), p,
      cs.drop digits.length)

def escaped (p : Printing) (l : Layout) : Printing :=
  let (a, p) := p.take
  let (cs, isCut) := unescape p.provider (a.getD "")
  let p := p.put (l.text cs)
  if isCut then p.stop (if p.isFaulty && p.provider == .builtin then 1 else 0) else p

def isReal (c : Char) : Bool := "aAeEfFgG".toList.contains c

def convert (p : Printing) (l : Layout) (letter : Char) : Printing :=
  if letter == 'd' || letter == 'i' then
    let (n, p) := p.integer clampSigned
    p.put (l.signed n)
  else if "ouxX".toList.contains letter then
    let (n, p) := p.integer clampUnsigned
    p.put (l.unsigned letter n.toNat)
  else if isReal letter then
    let (x, p) := p.real
    p.put (l.real (precisionOf p.provider) letter x)
  else if letter == 'c' then
    let (a, p) := p.take
    p.put (l.pad [((a.getD "").toList.head?).getD '\x00'])
  else
    let (a, p) := p.take
    p.put (l.text (a.getD "").toList)

/-- Whether a program's conversion goes with flags and a precision. -/
def isAllowed (flags : List Char) (hasPrecision : Bool) (letter : Char) : Bool :=
  let isKnown := "aAcdeEfFgGiosuxX".toList.contains letter
  let isBarred (flag : Char) : Bool :=
    match flag with
    | '\'' => "aAceEosxX".toList.contains letter
    | '#' => "cdisu".toList.contains letter
    | '0' => "cs".toList.contains letter
    | _ => false
  isKnown && !flags.any isBarred && !(hasPrecision && letter == 'c')

def directive (p : Printing) (cs : List Char) : Printing × List Char :=
  let isBuiltin := p.provider == .builtin
  let isFlag (c : Char) : Bool := "#-+ 0".toList.contains c || (!isBuiltin && "'I".toList.contains c)
  let flags := cs.takeWhile isFlag
  let (width, p, rest) := p.amount (cs.drop flags.length) true
  let (precision, hasPrecision, p, rest) := match rest with
    | '.' :: rest =>
      let (n, p, rest) := p.amount rest false
      (some (n.getD 0), true, p, rest)
    | rest => (none, false, p, rest)
  let rest := if isBuiltin then rest else rest.dropWhile ("hlLjtz".toList.contains ·)
  let precision := precision.bind fun n => if n < 0 then none else some n.toNat
  let l := ({ flags, precision } : Layout).withWidth (width.getD 0)
  let shown (rest : List Char) : Bytes := String.ofList ('%' :: cs.take (cs.length - rest.length))
  if p.stopped.isSome then (p, []) else
  match p.provider, rest with
  | .builtin, [] => ((p.complain "missing format character").stop 2, [])
  | .program, [] =>
    ((p.complain s!"{shown []}: invalid conversion specification").stop 1, [])
  | .builtin, letter :: rest =>
    if letter == 'b' then (p.escaped l, rest)
    else if "cdiosuxX".toList.contains letter || isReal letter then (p.convert l letter, rest)
    else ((p.complain s!"{shown rest}: invalid directive").stop 2, [])
  | .program, letter :: rest =>
    if letter == 'b' && cs.head? == some 'b' then
      (if p.arguments.isEmpty then p else p.escaped {}, rest)
    else if isAllowed flags hasPrecision letter then (p.convert l letter, rest)
    else ((p.complain s!"{shown rest}: invalid conversion specification").stop 1, [])

/-- A character given by its number, of which only those of ASCII can be written as such. -/
def numbered (p : Printing) (letter : Char) (length : Nat) (cs : List Char) :
    Printing × List Char :=
  let digits := (cs.take length).takeWhile isHex
  let n := readDigits 16 digits
  let shown (width : Nat) : List Char :=
    let digits := (Nat.toDigits 16 n).map Char.toUpper
    List.replicate (width - digits.length) '0' ++ digits
  if digits.length < length then
    ((p.complain "missing hexadecimal number in escape").stop 1, [])
  else if n = 36 || n = 64 || n = 96 then (p.put [Char.ofNat n], cs.drop length)
  else if n < 160 || (0xd800 ≤ n && n ≤ 0xdfff) then
    let name := String.ofList ('\\' :: letter :: digits.map Char.toLower)
    ((p.complain s!"invalid universal character name {name}").stop 1, [])
  else
    let cs' := if n < 65536 then '\\' :: 'u' :: shown 4 else '\\' :: 'U' :: shown 8
    (p.put cs', cs.drop length)

/-- An escape in a format from behind its backslash on, and the rest. -/
def escape (p : Printing) (cs : List Char) : Printing × List Char :=
  match escape? p.provider cs, p.provider, cs with
  | some (c, rest), _, _ => (p.put [c], rest)
  | none, .builtin, rest => (p.put ['\\'], rest)
  | none, .program, 'u' :: rest => p.numbered 'u' 4 rest
  | none, .program, 'U' :: rest => p.numbered 'U' 8 rest
  | none, .program, 'c' :: _ => (p.stop 0, [])
  | none, .program, '"' :: rest => (p.put ['"'], rest)
  | none, .program, 'x' :: _ =>
    ((p.complain "missing hexadecimal number in escape").stop 1, [])
  | none, .program, c :: rest => (p.put ['\\', c], rest)
  | none, .program, [] => (p.put ['\\'], [])

def use (p : Printing) : Nat → List Char → Printing
  | 0, _ => p
  | fuel + 1, cs =>
    if p.stopped.isSome then p else
    match cs with
    | [] => p
    | '%' :: '%' :: rest => (p.put ['%']).use fuel rest
    | '%' :: rest =>
      let (p, rest) := p.directive rest
      p.use fuel rest
    | '\\' :: rest =>
      let (p, rest) := p.escape rest
      p.use fuel rest
    | c :: rest => (p.put [c]).use fuel rest

/-- The format is used again as long as arguments are left and a use takes some. -/
def reuse (format : List Char) : Nat → Printing → Printing
  | 0, p => p
  | fuel + 1, p =>
    let after := p.use (format.length + 1) format
    if after.stopped.isSome || after.arguments.isEmpty ||
      after.arguments.length = p.arguments.length then after
    else reuse format fuel after

end Printing

/-- What printing does, in order, and the exit code. -/
def printFormat (provider : Provider) (format : Bytes) (arguments : List Bytes) :
    List Printing.Event × Nat :=
  let p := Printing.reuse format.toList (arguments.length + 1) { provider, arguments }
  let p := match provider, p.stopped, p.arguments with
    | .program, none, a :: _ =>
      p.complain s!"warning: ignoring excess arguments, starting with {quoted a}" false
    | _, _, _ => p
  (p.flush.events.reverse, p.stopped.getD (if p.isFaulty then 1 else 0))

end PidOne.Machine
