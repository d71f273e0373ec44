import PidOne.Machine.Tools.Streams

/-!
# Translation of characters

Characters that are replaced, deleted or squeezed, as two strings with ranges, classes and
repetitions tell.
-/

namespace PidOne.Machine.Tool

open Text (Bytes)
open Routine (Program)

/-- A character of a string, and whether it was escaped. -/
abbrev Letter := Char × Bool

inductive Element
  | char (char : Char)
  | range (first last : Char)
  | charClass (name : Bytes)
  | equivalents (char : Char)
  /-- Zero stands for as often as is needed. -/
  | repeated (char : Char) (count : Nat)

def escapedLetter : Char → Char
  | 'a' => '\x07'
  | 'b' => '\x08'
  | 'f' => '\x0c'
  | 'n' => '\n'
  | 'r' => '\r'
  | 't' => '\t'
  | 'v' => '\x0b'
  | c => c

/-- The letters of a string, and whether there is a backslash at its end, which then stands for
itself. -/
def readLetters : Nat → List Char → List Letter × Bool
  | 0, _ => ([], false)
  | _, [] => ([], false)
  | _, ['\\'] => ([('\\', false)], true)
  | fuel + 1, '\\' :: c :: rest =>
    if Text.isOctal c then
      let digits := ((c :: rest).takeWhile Text.isOctal).take 3
      let digits := if Text.readDigits 8 digits > 255 then digits.take 2 else digits
      let (more, isUnfinished) := readLetters fuel ((c :: rest).drop digits.length)
      ((Char.ofNat (Text.readDigits 8 digits), true) :: more, isUnfinished)
    else
      let (more, isUnfinished) := readLetters fuel rest
      ((escapedLetter c, true) :: more, isUnfinished)
  | fuel + 1, c :: rest =>
    let (more, isUnfinished) := readLetters fuel rest
    ((c, false) :: more, isUnfinished)

def charsOf (ls : List Letter) : List Char := ls.map (·.1)

/-- The text up to a delimiter that a bracket follows, and what is behind both. -/
def delimited? (delimiter : Char) : List Letter → Option (List Letter × List Letter)
  | (c, false) :: (']', false) :: rest =>
    if c == delimiter then some ([], rest)
    else (delimited? delimiter ((']', false) :: rest)).map fun (seen, rest) =>
      ((c, false) :: seen, rest)
  | l :: rest => (delimited? delimiter rest).map fun (seen, rest) => (l :: seen, rest)
  | [] => none

def repetition? : List Letter → Option (Except Bytes Element × List Letter)
  | (c, _) :: ('*', false) :: rest =>
    let digits := rest.takeWhile (· != (']', false))
    match rest.drop digits.length with
    | [] => none
    | _ :: after =>
      let cs := charsOf digits
      let base := if cs.head? == some '0' then 8 else 10
      if cs.all fun d => d.isDigit && Text.digitValue d < base then
        some (.ok (.repeated c (Text.readDigits base cs)), after)
      else
        let shown := quoted (String.ofList cs)
        some (.error s!"invalid repeat count {shown} in [c*n] construct", after)
  | _ => none

def isRepetition (ls : List Letter) : Bool :=
  match ls with
  | ('*', false) :: rest => (rest.dropWhile (·.1.isDigit)).head? == some (']', false)
  | _ => false

def classNames : List Bytes :=
  ["alnum", "alpha", "blank", "cntrl", "digit", "graph", "lower", "print", "punct", "space",
    "upper", "xdigit"]

def classMembers (name : Bytes) : List Char :=
  ((List.range 256).map Char.ofNat).filter fun c => (Shell.Pattern.inClass? name c).getD false

def shownChar (c : Char) : Bytes :=
  if isShown c then String.ofList [c] else "\\" ++ Text.octal 3 c.toNat

/-- A construct in brackets from behind the first one on, if it is one. -/
def bracketed? (ls : List Letter) : Except Bytes (Option (Element × List Letter)) :=
  let repeated : Except Bytes (Option (Element × List Letter)) :=
    match repetition? ls with
    | some (.ok e, rest) => .ok (some (e, rest))
    | some (.error message, _) => .error message
    | none => .ok none
  match ls with
  | (':', false) :: rest =>
    match delimited? ':' rest with
    | none => repeated
    | some (name, after) =>
      let name := String.ofList (charsOf name)
      if classNames.contains name then .ok (some (.charClass name, after))
      else if isRepetition rest then repeated
      else if name.isEmpty then
        let shown := quoted "[::]"
        .error s!"missing character class name {shown}"
      else .error s!"invalid character class {quoted name}"
  | ('=', false) :: rest =>
    match delimited? '=' rest with
    | none => repeated
    | some ([(c, _)], after) => .ok (some (.equivalents c, after))
    | some (name, _) =>
      if isRepetition rest then repeated
      else if name.isEmpty then
        let shown := quoted "[==]"
        .error s!"missing equivalence class character {shown}"
      else
        let shown := String.ofList (charsOf name)
        .error s!"{shown}: equivalence class operand must be a single character"
  | _ => repeated

def readElements : Nat → List Letter → Except Bytes (List Element)
  | 0, _ => .ok []
  | _, [] => .ok []
  | fuel + 1, ls@((c, isEscaped) :: rest) => do
    let isLong := ls.length > 2
    match ← (if isLong && c == '[' && !isEscaped then bracketed? rest else .ok none), rest with
    | some (e, after), _ => .ok (e :: (← readElements fuel after))
    | none, ('-', false) :: (last, _) :: after =>
      if last < c then
        let shown := s!"{shownChar c}-{shownChar last}"
        .error s!"range-endpoints of '{shown}' are in reverse collating sequence order"
      else .ok (.range c last :: (← readElements fuel after))
    | none, rest => .ok (.char c :: (← readElements fuel rest))

def Element.members : Element → List Char
  | .char c => [c]
  | .range first last =>
    (List.range (last.toNat + 1 - first.toNat)).map fun n => Char.ofNat (first.toNat + n)
  | .charClass name => classMembers name
  | .equivalents c => [c]
  | .repeated c count => List.replicate count c

def Element.isClass : Element → Bool
  | .charClass _ => true
  | _ => false

def Element.isCase : Element → Bool
  | .charClass name => name == "upper" || name == "lower"
  | _ => false

def Element.isOpen : Element → Bool
  | .repeated _ 0 => true
  | _ => false

def membersOf (es : List Element) : List Char := es.flatMap Element.members

def casePlaces (es : List Element) : List Nat :=
  (es.foldl (fun (places, n) e =>
    (if e.isCase then places ++ [n] else places, n + e.members.length)) ([], 0)).1

/-- A repetition without a number makes a string as long as another one. -/
def stretch (length : Nat) (es : List Element) : List Element :=
  let missing := length - (membersOf es).length
  es.map fun e =>
    match e with
    | .repeated c 0 => .repeated c missing
    | e => e

/-- What is done with characters: those to delete, to replace and to squeeze. -/
structure Translation where
  deletes : Char → Bool
  replaces : Char → Char
  squeezes : Char → Bool

def Translation.apply (t : Translation) (previous : Option Char) (cs : List Char) :
    List Char × Option Char :=
  let (seen, previous) := cs.foldl (fun (seen, previous) c =>
    if t.deletes c then (seen, previous)
    else
      let c := t.replaces c
      if previous == some c && t.squeezes c then (seen, previous) else (c :: seen, some c))
    ([], previous)
  (seen.reverse, previous)

def translateAll (t : Translation) : Nat → Option Char → Tool Unit
  | 0, _ => pure ()
  | fuel + 1, previous => do
    match ← readBlock 0 8192 enough with
    | .ok "" => pure ()
    | .error number => die s!"read error: {number.message}"
    | .ok text =>
      let (shown, previous) := t.apply previous text.toList
      print (String.ofList shown)
      translateAll t fuel previous

def pairsOf (first second : List Element) (complements truncates : Bool) :
    Except Bytes (List (Char × Char)) := do
  let members := membersOf first
  let source := if complements then
      ((List.range 256).map Char.ofNat).filter (!members.contains ·)
    else members
  if second.any fun e => e.isClass && !e.isCase then
    throw ("when translating, the only character classes that may appear in\n" ++
      "string2 are 'upper' and 'lower'")
  if second.any fun e => match e with
    | .equivalents _ => true
    | _ => false then
    throw "[=c=] expressions may not appear in string2 when translating"
  let second := stretch source.length second
  let target := membersOf second
  if (casePlaces second).any fun n => complements || !(casePlaces first).contains n then
    throw "misaligned [:upper:] and/or [:lower:] construct"
  if source.length > target.length && !truncates then
    if target.isEmpty then throw "when not truncating set1, string2 must be non-empty"
    if second.getLast?.any Element.isClass then
      throw ("when translating with string1 longer than string2,\n" ++
        "the latter string must not end with a character class")
  let target := if truncates then target
    else target ++ List.replicate (source.length - target.length) (target.getLastD ' ')
  if complements && first.any Element.isClass && !(target.all (· == target.headD ' ')) then
    throw ("when translating with complemented character classes,\n" ++
      "string2 must map all characters in the domain to one")
  .ok (source.zip target)

def elementsOf (text : Bytes) : Tool (List Element) := do
  let (ls, isUnfinished) := readLetters (text.length + 1) text.toList
  if isUnfinished then
    warn "warning: an unescaped backslash at end of string is not portable"
  match readElements (ls.length + 1) ls with
  | .ok es => pure es
  | .error message => die message

def tr (arguments : List Bytes) : Tool Unit := do
  let g ← options
    [⟨'c', "complement", .nothing⟩, ⟨'C', "", .nothing⟩, ⟨'d', "delete", .nothing⟩,
      ⟨'s', "squeeze-repeats", .nothing⟩, ⟨'t', "truncate-set1", .nothing⟩] arguments false
  let complements := g.has 'c' || g.has 'C'
  let deletes := g.has 'd'
  let squeezes := g.has 's'
  let least := if deletes == squeezes then 2 else 1
  let most := if deletes && !squeezes then 1 else 2
  match g.operands with
  | [] => missingOperand
  | [a] =>
    if least = 2 then
      warn s!"missing operand after {quoted a}"
      putError (if squeezes then
          "Two strings must be given when both deleting and squeezing repeats.\n"
        else "Two strings must be given when translating.\n")
      tryHelp
  | _ => pure ()
  if g.operands.length > most then
    let extra := g.operands.getD most ""
    warn s!"extra operand {quoted extra}"
    if g.operands.length = 2 then
      putError "Only one string may be given when deleting without squeezing repeats.\n"
    tryHelp
  let first ← elementsOf (g.operands.headD "")
  let second? ← ((g.operands.drop 1).head?).mapM elementsOf
  let translates := second?.isSome && !deletes
  if first.any Element.isOpen then
    die "the [c*] repeat construct may not appear in string1"
  if (second?.getD []).countP Element.isOpen > 1 then
    die "only one [c*] repeat construct may appear in string2"
  if !translates && (second?.getD []).any Element.isOpen then
    die "the [c*] construct may appear in string2 only when translating"
  let members := membersOf first
  let isFirst (c : Char) : Bool := members.contains c != complements
  let squeezed := membersOf (stretch 0 (second?.getD []))
  let pairs ← if !translates then pure [] else
    match pairsOf first (second?.getD []) complements (g.has 't') with
    | .ok pairs => pure pairs
    | .error message => die message
  -- Of several pairs for a character the last one counts.
  let table := pairs.reverse
  let targets := pairs.map (·.2)
  let t : Translation :=
    { deletes := fun c => deletes && isFirst c
      replaces := fun c => if translates then (table.lookup c).getD c else c
      squeezes := fun c => squeezes &&
        (if translates then targets.contains c || squeezed.contains c
          else if second?.isSome then squeezed.contains c
          else isFirst c) }
  translateAll t enough none

end PidOne.Machine.Tool
