import PidOne.Machine.Tools.Columns
import PidOne.Machine.Tools.Processes
import PidOne.Text.Real

/-!
# Tools that order lines

Lines in order, by keys and by rules for what of them is compared and how, and runs of equal lines.
-/

namespace PidOne.Machine.Tool

open Text (Bytes)
open Routine (Program)

/-! ## Rules -/

/-- How texts are compared, as letters tell it. -/
structure Rule where
  letters : List Char := []

namespace Rule

def has (r : Rule) (letter : Char) : Bool := r.letters.contains letter

def known : List Char := "bdfghiMnRrV".toList

end Rule

def isBlankChar (c : Char) : Bool := c == ' ' || c == '\t' || c == '\n'

/-- A decimal number at the front of a text, as digits before and behind its point. -/
structure Numeral where
  isNegative : Bool
  whole : List Char
  fraction : List Char
  rest : List Char

def numeral (cs : List Char) : Numeral :=
  let cs := cs.dropWhile isBlankChar
  let (isNegative, cs) := match cs with
    | '-' :: cs => (true, cs)
    | cs => (false, cs)
  let whole := cs.takeWhile Char.isDigit
  let (fraction, rest) := match cs.drop whole.length with
    | '.' :: rest => rest.span Char.isDigit
    | rest => ([], rest)
  { isNegative, whole, fraction, rest }

def Numeral.compare (a b : Numeral) : Ordering :=
  let places := max a.fraction.length b.fraction.length
  let value (n : Numeral) : Int :=
    let fraction := n.fraction ++ List.replicate (places - n.fraction.length) '0'
    let m : Int := Text.readDigits 10 (n.whole ++ fraction)
    if n.isNegative then -m else m
  Ord.compare (value a) (value b)

def unitPower (n : Numeral) : Int :=
  let isZero := (n.whole ++ n.fraction).all (· == '0')
  let power : Int := match n.rest with
    | c :: _ => if c == 'k' then 1 else ("KMGTPEZYRQ".toList.idxOf? c).elim 0 fun i => i + 1
    | [] => 0
  if isZero then 0 else if n.isNegative then -power else power

/-- The place of a number in the order of all numbers, those that are none first. -/
def generalOrder (a b : List Char) : Ordering :=
  let read (cs : List Char) : Option (Bool × Text.Magnitude) :=
    let (isNegative, cs) := splitSign (cs.dropWhile isBlankChar)
    (Text.magnitude? Text.extendedPrecision cs).map fun (m, _, _) => (isNegative, m)
  let scaled (isNegative : Bool) (significand : Nat) (exponent : Int) (base : Int) : Int :=
    let n : Int := significand * Nat.pow 2 (exponent - base).toNat
    if isNegative then -n else n
  match read a, read b with
  | none, none => .eq
  | none, some _ => .lt
  | some _, none => .gt
  | some (x, .finite m e), some (y, .finite n f) =>
    compare (scaled x m e (min e f)) (scaled y n f (min e f))
  | some (x, .infinite), some (y, .infinite) => compare y x
  | some (x, .infinite), some _ => if x then .lt else .gt
  | some _, some (y, .infinite) => if y then .gt else .lt
  | some (_, .notNumber), some (_, .notNumber) => .eq
  | some (_, .notNumber), some _ => .lt
  | some _, some (_, .notNumber) => .gt

def monthOf (cs : List Char) : Nat :=
  let name := String.ofList (((cs.dropWhile isBlankChar).take 3).map Char.toLower)
  ((Text.monthNames.map String.toLower).idxOf? name).elim 0 (· + 1)

/-- The place of a character in the order of versions: the end comes behind a tilde, and letters
come before other characters. -/
def versionPlace (c : Option Char) : Int :=
  match c with
  | none => 0
  | some '~' => -1
  | some c => if c.isDigit then 0 else if c.isAlpha then c.toNat else c.toNat + 256

/-- Compare texts in which runs of digits count as numbers. -/
def versionOrder : Nat → List Char → List Char → Ordering
  | 0, _, _ => .eq
  | _, [], [] => .eq
  | fuel + 1, as, bs =>
    let isOpen (cs : List Char) : Bool := cs.head?.any fun c => !c.isDigit
    if isOpen as || isOpen bs then
      match compare (versionPlace as.head?) (versionPlace bs.head?) with
      | .eq => versionOrder fuel (as.drop 1) (bs.drop 1)
      | order => order
    else
      let x := as.takeWhile Char.isDigit
      let y := bs.takeWhile Char.isDigit
      match compare (Text.readDigits 10 x) (Text.readDigits 10 y) with
      | .eq => versionOrder fuel (as.drop x.length) (bs.drop y.length)
      | order => order

def compareChars : List Char → List Char → Ordering
  | [], [] => .eq
  | [], _ => .lt
  | _, [] => .gt
  | a :: as, b :: bs => match compare a.toNat b.toNat with
    | .eq => compareChars as bs
    | order => order

/-- Compare texts by a rule, not yet reversed. -/
def Rule.compare (r : Rule) (a b : List Char) : Ordering :=
  if r.has 'n' then (numeral a).compare (numeral b)
  else if r.has 'h' then
    match Ord.compare (unitPower (numeral a)) (unitPower (numeral b)) with
    | .eq => (numeral a).compare (numeral b)
    | order => order
  else if r.has 'g' then generalOrder a b
  else if r.has 'M' then Ord.compare (monthOf a) (monthOf b)
  else
    let prepare (cs : List Char) : List Char :=
      let cs := if r.has 'd' then cs.filter fun c => c.isAlphanum || isBlankChar c else cs
      let cs := if r.has 'i' then cs.filter isShown else cs
      if r.has 'f' then cs.map Char.toUpper else cs
    if r.has 'V' then versionOrder (a.length + b.length + 2) (prepare a) (prepare b)
    else compareChars (prepare a) (prepare b)

/-! ## Keys -/

/-- A part of a line: fields that are passed over, and characters beyond them. -/
structure Key where
  field : Nat := 0
  char : Nat := 0
  skipsBlanks : Bool := false
  /-- The last field, none for the end of the line, and how many of its characters belong to the
  key; zero stands for all. -/
  lastField : Option Nat := none
  lastChar : Nat := 0
  skipsLastBlanks : Bool := false
  rule : Rule := {}

def dropFields (tab : Option Char) : Nat → List Char → List Char
  | 0, cs => cs
  | n + 1, cs =>
    match tab with
    | some t =>
      let rest := cs.dropWhile (· != t)
      if rest.isEmpty then [] else dropFields tab n (rest.drop 1)
    | none => dropFields tab n ((cs.dropWhile isBlankChar).dropWhile (!isBlankChar ·))

def Key.start (k : Key) (tab : Option Char) (cs : List Char) : List Char :=
  let rest := dropFields tab k.field cs
  (if k.skipsBlanks then rest.dropWhile isBlankChar else rest).drop k.char

def Key.beyond (k : Key) (tab : Option Char) (cs : List Char) : List Char :=
  match k.lastField with
  | none => []
  | some last =>
    if k.lastChar = 0 then
      match tab with
      | some t => (dropFields tab last cs).dropWhile (· != t)
      | none => dropFields tab (last + 1) cs
    else
      let rest := dropFields tab last cs
      (if k.skipsLastBlanks then rest.dropWhile isBlankChar else rest).drop k.lastChar

def Key.part (k : Key) (tab : Option Char) (cs : List Char) : List Char :=
  let start := k.start tab cs
  start.take (start.length - (k.beyond tab cs).length)

def keyNumber (words : Bytes) (whole : Bytes) (cs : List Char) : Except Bytes (Nat × List Char) :=
  let digits := cs.takeWhile Char.isDigit
  if digits.isEmpty then .error s!"{words}: invalid count at start of {quoted whole}"
  else .ok (Text.readDigits 10 digits, cs.drop digits.length)

def keyOf? (text : Bytes) : Except Bytes Key := do
  let bad (words : Bytes) : Except Bytes Key :=
    .error s!"{words}: invalid field specification {quoted text}"
  let isRule (c : Char) : Bool := Rule.known.contains c
  let (field, rest) ← keyNumber "invalid number at field start" text text.toList
  if field = 0 then bad "field number is zero" else
  let (char, rest) ← match rest with
    | '.' :: rest => keyNumber "invalid number after '.'" (String.ofList rest) rest
    | rest => .ok (1, rest)
  if char = 0 then bad "character offset is zero" else
  let front := rest.takeWhile isRule
  let key : Key :=
    { field := field - 1, char := char - 1, skipsBlanks := front.contains 'b'
      rule := { letters := front } }
  match rest.drop front.length with
  | [] => .ok key
  | ',' :: rest =>
    let (last, rest) ← keyNumber "invalid number after ','" (String.ofList rest) rest
    if last = 0 then bad "field number is zero" else
    let (lastChar, rest) ← match rest with
      | '.' :: rest => keyNumber "invalid number after '.'" (String.ofList rest) rest
      | rest => .ok (0, rest)
    let back := rest.takeWhile isRule
    if !(rest.drop back.length).isEmpty then bad "stray character in field spec" else
    .ok { key with
      lastField := some (last - 1), lastChar, skipsLastBlanks := back.contains 'b'
      rule := { letters := front ++ back } }
  | _ => bad "stray character in field spec"

/-! ## Orders -/

structure Sorting where
  rule : Rule := {}
  keys : List Key := []
  tab : Option Char := none
  isUnique : Bool := false
  isStable : Bool := false
  separator : Char := '\n'

/-- Keys without letters of their own take those of the whole. -/
def Sorting.ruleOf (s : Sorting) (k : Key) : Rule := if k.rule.letters.isEmpty then s.rule else k.rule

def reverseIf (isReversed : Bool) (order : Ordering) : Ordering :=
  if isReversed then order.swap else order

def Sorting.compareKeys (s : Sorting) (a b : List Char) : Ordering :=
  if s.keys.isEmpty then
    let prepare (cs : List Char) : List Char :=
      if s.rule.has 'b' then cs.dropWhile isBlankChar else cs
    reverseIf (s.rule.has 'r') (s.rule.compare (prepare a) (prepare b))
  else
    s.keys.foldl (fun order k =>
      match order with
      | .eq =>
        let rule := s.ruleOf k
        let k := if k.rule.letters.isEmpty && s.rule.has 'b' then
          { k with skipsBlanks := true, skipsLastBlanks := true } else k
        reverseIf (rule.has 'r') (rule.compare (k.part s.tab a) (k.part s.tab b))
      | order => order) .eq

/-- Compare lines; of lines with equal keys the whole texts decide. -/
def Sorting.compare (s : Sorting) (a b : List Char) : Ordering :=
  match s.compareKeys a b with
  | .eq =>
    if s.isStable || s.isUnique then .eq
    else reverseIf (s.rule.has 'r') (compareChars a b)
  | order => order

def Sorting.le (s : Sorting) (a b : List Char) : Bool := s.compare a b != .gt

/-- Of neighbouring lines with equal keys the first one stays. -/
def Sorting.unique (s : Sorting) : List (List Char) → List (List Char)
  | a :: rest =>
    match s.unique rest with
    | b :: more => if s.compareKeys a b == .eq then a :: more else a :: b :: more
    | [] => [a]
  | [] => []

def Sorting.disorder? (s : Sorting) : Nat → List (List Char) → Option (Nat × List Char)
  | n, a :: b :: rest =>
    let order := s.compare a b
    if order == .gt || (s.isUnique && order == .eq) then some (n, b)
    else s.disorder? (n + 1) (b :: rest)
  | _, _ => none

def linesBy (separator : Char) (text : Bytes) : List (List Char) :=
  let parts := text.splitOn (String.ofList [separator])
  let parts := if parts.getLast? == some "" then parts.dropLast else parts
  parts.map String.toList

/-- The options of a command that sorts: some of its first operands may be older forms. -/
def sort (arguments : List Bytes) : Tool Unit := do
  let g ← options (letters "bdfghiMnRrVcCmsuz" ++
    [⟨'k', "key", .value⟩, ⟨'o', "output", .value⟩, ⟨'t', "field-separator", .value⟩,
      ⟨'T', "temporary-directory", .value⟩, ⟨'S', "buffer-size", .value⟩,
      ⟨'n', "numeric-sort", .nothing⟩, ⟨'r', "reverse", .nothing⟩, ⟨'u', "unique", .nothing⟩,
      ⟨'s', "stable", .nothing⟩, ⟨'c', "check", .valueOrNothing⟩, ⟨'f', "ignore-case", .nothing⟩,
      ⟨'b', "ignore-leading-blanks", .nothing⟩, ⟨'m', "merge", .nothing⟩,
      ⟨'V', "version-sort", .nothing⟩, ⟨'h', "human-numeric-sort", .nothing⟩])
    arguments true 2
  let keys ← ((g.options.filter (·.1 == 'k')).map (·.2)).mapM fun text => do
    match keyOf? text with
    | .ok key => pure key
    | .error message => die message 2
  let tab ← (g.value? 't').mapM fun text => do
    match text.toList with
    | [] => die "empty tab" 2
    | [c] => pure c
    | ['\\', '0'] => pure '\x00'
    | _ => die s!"multi-character tab {quoted text}" 2
  let s : Sorting :=
    { rule := { letters := (g.options.map (·.1)).filter Rule.known.contains }, keys, tab
      isUnique := g.has 'u', isStable := g.has 's'
      separator := if g.has 'z' then '\x00' else '\n' }
  let names := inputsOf g
  let isCheck := g.has 'c' || g.has 'C'
  match names with
  | _ :: extra :: _ =>
    if isCheck then
      let option := if g.has 'c' then "-c" else "-C"
      die s!"extra operand {quoted extra} not allowed with {option}" 2
  | _ => pure ()
  let texts ← names.mapM fun name => do
    match ← openInput name with
    | .error number => die s!"cannot read: {nameQuoted name}: {number.message}" 2
    | .ok d =>
      match ← readWhole d with
      | .error number => die s!"read failed: {nameQuoted name}: {number.message}" 2
      | .ok text =>
        closeInput name d
        pure (linesBy s.separator text)
  if isCheck then
    match s.disorder? 2 texts.flatten with
    | none => pure ()
    | some (n, line) =>
      if g.has 'c' then
        let name := names.headD "-"
        die s!"{nameQuoted name}:{n}: disorder: {String.ofList line}"
      else quit 1
  else
    let sorted := if g.has 'm' then
        texts.foldl (fun seen ls => List.merge seen ls s.le) []
      else texts.flatten.mergeSort s.le
    let sorted := if s.isUnique then s.unique sorted else sorted
    let text := String.ofList (sorted.flatMap fun line => line ++ [s.separator])
    match g.value? 'o' with
    | none => print text
    | some name =>
      match ← Program.openFile name { writes := true, creates := true, truncates := true } with
      | .error number => die s!"open failed: {nameQuoted name}: {number.message}" 2
      | .ok d =>
        let _ ← writeAll d text
        let _ ← Program.close d

/-! ## Runs -/

def runsBy (same : Bytes → Bytes → Bool) : List Bytes → List (List Bytes)
  | [] => []
  | line :: rest =>
    match runsBy same rest with
    | (next :: more) :: runs =>
      if same line next then (line :: next :: more) :: runs else [line] :: (next :: more) :: runs
    | runs => [line] :: runs

def uniq (arguments : List Bytes) : Tool Unit := do
  let g ← options
    [⟨'c', "count", .nothing⟩, ⟨'d', "repeated", .nothing⟩, ⟨'D', "", .nothing⟩,
      ⟨'u', "unique", .nothing⟩, ⟨'i', "ignore-case", .nothing⟩, ⟨'f', "skip-fields", .value⟩,
      ⟨'s', "skip-chars", .value⟩, ⟨'w', "check-chars", .value⟩, ⟨'z', "", .nothing⟩] arguments
  let count (letter : Char) (words : Bytes) : Tool (Option Nat) :=
    (g.value? letter).mapM fun text => do
      match whole? text with
      | some (.ofNat n) => pure n
      | _ => die s!"{text}: invalid number of {words}"
  let fields ← count 'f' "fields to skip"
  let chars ← count 's' "bytes to skip"
  let width ← count 'w' "bytes to compare"
  match g.operands with
  | _ :: _ :: extra :: _ => extraOperand extra
  | _ => pure ()
  let key (line : Bytes) : List Char :=
    let cs := (dropFields none (fields.getD 0) line.toList).drop (chars.getD 0)
    let cs := match width with
      | some n => cs.take n
      | none => cs
    if g.has 'i' then cs.map Char.toLower else cs
  let name := g.operands.headD "-"
  match ← openInput name with
  | .error number => die s!"{nameQuoted name}: {number.message}"
  | .ok d =>
    match ← readWhole d with
    | .error number => die s!"error reading {shellQuoted name}: {number.message}"
    | .ok text =>
      let runs := runsBy (fun a b => key a == key b) (linesOf text)
      let shown := runs.flatMap fun run =>
        let n := run.length
        if (g.has 'd' || g.has 'D') && n < 2 || g.has 'u' && n > 1 then []
        else if g.has 'D' then run
        else
          let line := run.headD ""
          [if g.has 'c' then s!"{padLeft 7 (toString n)} {line}" else line]
      match g.operands with
      | [_, target] =>
        match ← Program.openFile target { writes := true, creates := true, truncates := true } with
        | .error number => die s!"{nameQuoted target}: {number.message}"
        | .ok d =>
          let _ ← writeAll d (unlines shown)
      | _ => print (unlines shown)

end PidOne.Machine.Tool
