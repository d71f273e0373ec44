import PidOne.Machine.Shell.Pattern

/-!
# Regular expressions

Basic and extended regular expressions over bytes, and a search for their matches that tries the
longer repetitions first.
-/

namespace PidOne.Machine

open Text (Bytes)

inductive CharSet
  | exactly (char : Char)
  /-- All but the newline. -/
  | any
  /-- Those in ranges and classes, or else those in none of them. -/
  | among (ranges : List (Char × Char)) (classes : List Bytes) (isInverted : Bool)
  deriving Repr

def CharSet.accepts (ignoresCase : Bool) (x : CharSet) (c : Char) : Bool :=
  let has (c : Char) : Bool :=
    match x with
    | .exactly d => c == d
    | .any => c != '\n'
    | .among ranges classes _ =>
      ranges.any (fun r => r.1 ≤ c && c ≤ r.2) ||
        classes.any fun name => (Shell.Pattern.inClass? name c).getD false
  let found := has c || (ignoresCase && (has c.toLower || has c.toUpper))
  match x with
  | .among _ _ true => !found && c != '\n'
  | _ => found

inductive Regex
  | empty
  | set (set : CharSet)
  | sequence (first second : Regex)
  | either (first second : Regex)
  | repeated (body : Regex) (least : Nat) (most : Option Nat)
  | group (number : Nat) (body : Regex)
  | reference (number : Nat)
  | atStart
  | atEnd
  /-- Between a character of a word and another one, or not. -/
  | boundary (isThere : Bool)
  | wordStart
  | wordEnd
  deriving Repr

namespace Regex

instance : Inhabited Regex := ⟨.empty⟩

def isWordChar (c : Char) : Bool := c.isAlphanum || c == '_'

/-! ## Matches -/

/-- A place in a text: how far it is from the front, the character before it, and what follows. -/
structure Place where
  offset : Nat
  before : Option Char
  rest : List Char

def Place.step (p : Place) : Place :=
  match p.rest with
  | c :: rest => { offset := p.offset + 1, before := some c, rest }
  | [] => p

def Place.skip (p : Place) (n : Nat) : Place := (List.range n).foldl (fun p _ => p.step) p

/-- What groups have matched: their numbers, and where their texts begin and end. -/
abbrev Captures := List (Nat × Nat × Nat)

/-- How a match goes: the whole text, and whether case counts. -/
structure Setting where
  text : List Char
  ignoresCase : Bool

def isWordAt : Option Char → Bool
  | some c => isWordChar c
  | none => false

/-- Whether what is done on the way to a place can be continued there. There is fuel for all steps
on one way. -/
def run (x : Setting) : Nat → Regex → Place → Captures →
    (Place → Captures → Option (Nat × Captures)) → Option (Nat × Captures)
  | 0, _, _, _, _ => none
  | fuel + 1, r, p, groups, next =>
    let holds (b : Bool) : Option (Nat × Captures) := if b then next p groups else none
    match r with
    | .empty => next p groups
    | .set s =>
      match p.rest with
      | c :: _ => if s.accepts x.ignoresCase c then next p.step groups else none
      | [] => none
    | .sequence a b =>
      run x fuel a p groups fun p groups => run x fuel b p groups next
    | .either a b => (run x fuel a p groups next).or (run x fuel b p groups next)
    | .repeated body least most =>
      let again : Option (Nat × Captures) :=
        if most == some 0 then none
        else run x fuel body p groups fun q groups =>
          if q.offset = p.offset && least = 0 then none
          else run x fuel (.repeated body (least - 1) (most.map (· - 1))) q groups next
      again.or (if least = 0 then next p groups else none)
    | .group n body =>
      run x fuel body p groups fun q groups =>
        next q ((n, p.offset, q.offset) :: groups.filter (·.1 != n))
    | .reference n =>
      match groups.lookup n with
      | none => none
      | some (start, finish) =>
        let wanted := (x.text.take finish).drop start
        if wanted.isPrefixOf p.rest then next (p.skip wanted.length) groups else none
    | .atStart => holds p.before.isNone
    | .atEnd => holds p.rest.isEmpty
    | .boundary isThere => holds ((isWordAt p.before != isWordAt p.rest.head?) == isThere)
    | .wordStart => holds (!isWordAt p.before && isWordAt p.rest.head?)
    | .wordEnd => holds (isWordAt p.before && !isWordAt p.rest.head?)

structure Match where
  start : Nat
  finish : Nat
  groups : Captures

def fuelFor (text : List Char) : Nat := 20 * text.length + 2000

def matchAt? (r : Regex) (x : Setting) (p : Place) : Option Match :=
  (run x (fuelFor x.text) r p [] fun q groups => some (q.offset, groups)).map
    fun (finish, groups) => { start := p.offset, finish, groups }

def searchFrom (r : Regex) (x : Setting) : Nat → Place → Option Match
  | 0, _ => none
  | fuel + 1, p =>
    match r.matchAt? x p with
    | some m => some m
    | none => if p.rest.isEmpty then none else searchFrom r x fuel p.step

def search? (r : Regex) (ignoresCase : Bool) (text : List Char) (offset : Nat := 0) :
    Option Match :=
  let p : Place := Place.skip { offset := 0, before := none, rest := text } offset
  r.searchFrom { text, ignoresCase } (text.length + 1) p

/-! ## Reading -/

/-- A bracket expression from behind its opening bracket on: its members, and the rest. -/
def members : Nat → List Char → List (Char × Char) → List Bytes →
    Option (List (Char × Char) × List Bytes × List Char)
  | 0, _, _, _ => none
  | fuel + 1, cs, ranges, classes =>
    match cs with
    | [] => none
    | '[' :: ':' :: rest =>
      let name := rest.takeWhile Char.isAlpha
      match rest.drop name.length with
      | ':' :: ']' :: rest => members fuel rest ranges (String.ofList name :: classes)
      | _ => members fuel (':' :: rest) (('[', '[') :: ranges) classes
    | '[' :: '.' :: c :: '.' :: ']' :: rest => members fuel rest ((c, c) :: ranges) classes
    | '[' :: '=' :: c :: '=' :: ']' :: rest => members fuel rest ((c, c) :: ranges) classes
    | ']' :: rest =>
      if ranges.isEmpty && classes.isEmpty then members fuel rest [(']', ']')] classes
      else some (ranges, classes, rest)
    | a :: '-' :: ']' :: rest => some (('-', '-') :: (a, a) :: ranges, classes, rest)
    | a :: '-' :: b :: rest => members fuel rest ((a, b) :: ranges) classes
    | a :: rest => members fuel rest ((a, a) :: ranges) classes

def bracket? (cs : List Char) : Option (CharSet × List Char) :=
  let (isInverted, body) := match cs with
    | '^' :: rest => (true, rest)
    | rest => (false, rest)
  (members (cs.length + 1) body [] []).map fun (ranges, classes, rest) =>
    (.among ranges classes isInverted, rest)

def bounds? (isExtended : Bool) (cs : List Char) : Option (Nat × Option Nat × List Char) :=
  let low := cs.takeWhile Char.isDigit
  let number (ds : List Char) : Nat := (String.ofList ds).toNat?.getD 0
  let close (most : Option Nat) (rest : List Char) : Option (Nat × Option Nat × List Char) :=
    match isExtended, rest with
    | true, '\x7d' :: rest => some (number low, most, rest)
    | false, '\\' :: '\x7d' :: rest => some (number low, most, rest)
    | _, _ => none
  match cs.drop low.length with
  | ',' :: rest =>
    let high := rest.takeWhile Char.isDigit
    if low.isEmpty && high.isEmpty then none
    else close (if high.isEmpty then none else some (number high)) (rest.drop high.length)
  | rest => if low.isEmpty then none else close (some (number low)) rest

inductive Token
  | atom (r : Regex)
  | opening
  | closing
  | bar
  | many (least : Nat) (most : Option Nat)
  | start
  | finish

def escaped (c : Char) : Token :=
  let space : CharSet := .among [] ["space"] false
  match c with
  | 'w' => .atom (.set (.among [('_', '_')] ["alnum"] false))
  | 'W' => .atom (.set (.among [('_', '_')] ["alnum"] true))
  | 's' => .atom (.set space)
  | 'S' => .atom (.set (.among [] ["space"] true))
  | 'b' => .atom (.boundary true)
  | 'B' => .atom (.boundary false)
  | '<' => .atom .wordStart
  | '>' => .atom .wordEnd
  | '\x60' => .atom .atStart
  | '\'' => .atom .atEnd
  | c =>
    if '1' ≤ c && c ≤ '9' then .atom (.reference (c.toNat - 48)) else .atom (.set (.exactly c))

/-- The tokens of an expression. In basic ones a star that has nothing before it stands for
itself, and so do the marks of a line's ends elsewhere than at ends. -/
def tokens (isExtended : Bool) : Nat → Bool → List Char → Except Bytes (List Token)
  | 0, _, _ => .ok []
  | fuel + 1, isFirst, cs =>
    let go (t : Token) (isFirst : Bool) (rest : List Char) : Except Bytes (List Token) :=
      (tokens isExtended fuel isFirst rest).map (t :: ·)
    let plain (c : Char) (rest : List Char) : Except Bytes (List Token) :=
      go (.atom (.set (.exactly c))) false rest
    let isEnd (rest : List Char) : Bool :=
      isExtended || rest.isEmpty || ['\\', ')'].isPrefixOf rest || ['\\', '|'].isPrefixOf rest
    match cs with
    | [] => .ok []
    | ['\\'] => .error "Trailing backslash"
    | '\\' :: c :: rest =>
      if isExtended then go (escaped c) false rest
      else match c with
        | '(' => go .opening true rest
        | ')' => go .closing false rest
        | '|' => go .bar true rest
        | '+' => go (.many 1 none) false rest
        | '?' => go (.many 0 (some 1)) false rest
        | '\x7b' =>
          match bounds? false rest with
          | some (least, most, rest) => go (.many least most) false rest
          | none => .error "Unmatched \\\x7b"
        | c => go (escaped c) false rest
    | '[' :: rest =>
      match bracket? rest with
      | some (found, rest) => go (.atom (.set found)) false rest
      | none => .error "Unmatched [, [^, [:, [., or [="
    | '.' :: rest => go (.atom (.set .any)) false rest
    | '*' :: rest => if isFirst && !isExtended then plain '*' rest else go (.many 0 none) false rest
    | '^' :: rest => if isExtended || isFirst then go .start true rest else plain '^' rest
    | '$' :: rest => if isEnd rest then go .finish false rest else plain '$' rest
    | c :: rest =>
      if !isExtended then plain c rest
      else match c with
        | '(' => go .opening true rest
        | ')' => go .closing false rest
        | '|' => go .bar true rest
        | '+' => go (.many 1 none) false rest
        | '?' => go (.many 0 (some 1)) false rest
        | '\x7b' =>
          match bounds? true rest with
          | some (least, most, rest) => go (.many least most) false rest
          | none => plain '\x7b' rest
        | c => plain c rest

/-- An expression that is being put together: the tokens left, and the number of groups. -/
structure Building where
  tokens : List Token
  groups : Nat := 0

mutual

def alternatives : Nat → Building → Except Bytes (Regex × Building)
  | 0, b => .ok (.empty, b)
  | fuel + 1, b => do
    let (first, b) ← sequenceOf fuel .empty b
    match b.tokens with
    | .bar :: rest =>
      let (second, b) ← alternatives fuel { b with tokens := rest }
      .ok (.either first second, b)
    | _ => .ok (first, b)

def sequenceOf : Nat → Regex → Building → Except Bytes (Regex × Building)
  | 0, seen, b => .ok (seen, b)
  | fuel + 1, seen, b =>
    let go (r : Regex) (b : Building) : Except Bytes (Regex × Building) :=
      let (r, rest) := repetitions r b.tokens
      sequenceOf fuel (.sequence seen r) { b with tokens := rest }
    match b.tokens with
    | [] => .ok (seen, b)
    | .bar :: _ => .ok (seen, b)
    | .closing :: _ => .ok (seen, b)
    | .atom r :: rest => go r { b with tokens := rest }
    | .start :: rest => go .atStart { b with tokens := rest }
    | .finish :: rest => go .atEnd { b with tokens := rest }
    | .many .. :: rest => go .empty { b with tokens := rest }
    | .opening :: rest => do
      let number := b.groups + 1
      let (r, b) ← alternatives fuel { tokens := rest, groups := number }
      match b.tokens with
      | .closing :: rest => go (.group number r) { b with tokens := rest }
      | _ => .error "Unmatched ( or \\("

def repetitions (r : Regex) : List Token → Regex × List Token
  | .many least most :: rest => repetitions (.repeated r least most) rest
  | rest => (r, rest)

end

def ofText (isExtended : Bool) (text : Bytes) : Except Bytes Regex := do
  let ts ← tokens isExtended (text.length + 1) true text.toList
  let (r, b) ← alternatives (4 * ts.length + 4) { tokens := ts }
  match b.tokens with
  | [] => .ok r
  | .closing :: rest =>
    if isExtended then
      -- A parenthesis that closes nothing stands for itself.
      let (more, _) ← alternatives (4 * rest.length + 4) { tokens := rest, groups := b.groups }
      .ok (.sequence r (.sequence (.set (.exactly ')')) more))
    else .error "Unmatched ) or \\)"
  | _ => .ok r

def literal (text : Bytes) : Regex :=
  text.toList.foldr (fun c r => .sequence (.set (.exactly c)) r) .empty

end Regex

end PidOne.Machine
