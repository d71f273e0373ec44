import PidOne.Machine.Shell.Syntax

/-!
# Reading words and tokens

The text of a script is read character by character. Characters above 255 in it are marks: they
stand where the text of an alias ends, and where lines have been taken out of it.
-/

namespace PidOne.Machine.Shell

open Text (Bytes)

inductive Token
  | finish
  | newline
  | semicolon
  | ampersand
  | both
  | either
  | pipe
  | opening
  | closing
  | endOfBranch
  | redirect (descriptor : Nat) (mode : Mode) (isStripped : Bool)
  | word (word : Word)
  | keyword (text : Bytes)

/-- Why reading stops: the text goes on elsewhere, or it is at fault. -/
inductive Stop
  | more
  | fault (line : Nat) (message : Bytes)

structure Reading where
  text : List Char
  /-- Whether there is no more text behind this. -/
  isWhole : Bool
  line : Nat := 1
  aliases : List (Bytes × Bytes) := []
  /-- The aliases whose text is being read. -/
  inUse : List Bytes := []
  /-- Whether the next word may be an alias, since the text of the last one ended in a blank. -/
  expectsAlias : Bool := false
  token : Token := .newline
  /-- Whether the token is still to be read again. -/
  isPushed : Bool := false
  /-- Whether the text is that of a substitution between backquotes. -/
  isInner : Bool := false

abbrev Reader := StateT Reading (Except Stop)

namespace Reader

def fault {α : Type} (message : Bytes) : Reader α := do
  throw (.fault (← get).line message)

def endOfAlias : Char := Char.ofNat 256

/-- The mark for a number of lines that have been taken out. -/
def linesMark (count : Nat) : Char := Char.ofNat (4096 + min count 40000)

def isMark (c : Char) : Bool := c.toNat ≥ 256

def pass (c : Char) : Reader Unit :=
  modify fun r =>
    if c == endOfAlias then
      let last := (r.inUse.head?.bind fun name => r.aliases.lookup name).getD ""
      { r with
        inUse := r.inUse.drop 1
        expectsAlias := r.expectsAlias || last.endsWith " " || last.endsWith "\t" }
    else { r with line := r.line + (c.toNat - 4096) }

/-- The next character, or nothing at the end of the text. -/
def next : Reader (Option Char) := do
  let r ← get
  match r.text with
  | [] => if r.isWhole then pure none else throw .more
  | c :: rest =>
    set { r with text := rest }
    if isMark c then
      pass c
      let r ← get
      match r.text.dropWhile isMark with
      | [] => if r.isWhole then pure none else throw .more
      | d :: rest =>
        (r.text.takeWhile isMark).forM pass
        modify fun r => { r with text := rest }
        pure (some d)
    else pure (some c)

/-- The next character, which stays where it is. Marks before it stay too. -/
def peek : Reader (Option Char) := do
  let r ← get
  match r.text.dropWhile isMark with
  | [] => if r.isWhole then pure none else throw .more
  | c :: _ => pure (some c)

def atMark : Reader Bool := do pure ((← get).text.head? == some endOfAlias)

def unread (c : Char) : Reader Unit := modify fun r => { r with text := c :: r.text }

def countLine : Reader Unit := modify fun r => { r with line := r.line + 1 }

def joinLines : Nat → Reader Unit
  | 0 => pure ()
  | fuel + 1 => do
    match (← get).text with
    | '\\' :: rest =>
      match rest with
      | '\n' :: rest =>
        modify fun r => { r with text := rest, line := r.line + 1 }
        joinLines fuel
      | [] => if (← get).isWhole then pure () else throw .more
      | _ => pure ()
    | _ => pure ()

/-- The fuel of readers that stop at the end of the text at the latest. -/
def enough : Nat := 1000000000

def nextJoined : Reader (Option Char) := do
  joinLines enough
  next

def peekJoined : Reader (Option Char) := do
  joinLines enough
  peek

def takeWhile (isWanted : Char → Bool) : Nat → List Char → Reader (List Char)
  | 0, seen => pure seen.reverse
  | fuel + 1, seen => do
    match ← peekJoined with
    | some c =>
      if isWanted c then
        let _ ← nextJoined
        takeWhile isWanted fuel (c :: seen)
      else pure seen.reverse
    | none => pure seen.reverse

end Reader

inductive Quoting
  | plain
  /-- Between braces behind a parameter. -/
  | braced
  | double
  /-- Between braces inside double quotes, possibly inside quotes again. -/
  | doubleBraced (isInner : Bool)
  | document
  | arithmetic (depth : Nat)
  deriving DecidableEq, Repr

namespace Quoting

def isDouble : Quoting → Bool
  | .plain | .braced => false
  | _ => true

/-- The characters that a backslash quotes; before all others it stands for itself. -/
def escapes (q : Quoting) (c : Char) : Bool :=
  match q with
  | .plain | .braced => true
  | .document => c == '\\' || c == '\x60' || c == '$'
  | .doubleBraced _ => c == '\\' || c == '\x60' || c == '$' || c == '"' || c == '}'
  | _ => c == '\\' || c == '\x60' || c == '$' || c == '"'

end Quoting

/-- Parts in reverse, to which characters are added. -/
def addChar (c : Char) (quoted : Bool) : List Part → List Part
  | .text text q :: rest =>
    if q == quoted && !(text.isEmpty && quoted) then .text (text.push c) q :: rest
    else .text c.toString quoted :: .text text q :: rest
  | parts => .text c.toString quoted :: parts

def emptyQuote : Part := .text "" true

def isMeta (c : Char) : Bool := " \t\n;&|()<>".toList.contains c

/-- The parts of a quotation: one of all positional parameters may come to nothing at all. -/
def quotation (parts : List Part) : List Part :=
  match parts with
  | [.parameter "@" .value [] true] => parts
  | parts => parts ++ [emptyQuote]

def useOf? (c : Char) (evenEmpty : Bool) : Option Use :=
  match c with
  | '-' => some (.default evenEmpty)
  | '+' => some (.alternative evenEmpty)
  | '?' => some (.demand evenEmpty)
  | '=' => some (.assign evenEmpty)
  | _ => none

section

-- What reads the commands of a substitution, up to what closes it.
variable (commands : Reader (Option Tree))

/-- The text between backquotes, in which some backslashes quote. -/
def backquoted (quoted : Bool) : Nat → List Char → Reader (List Char)
  | 0, seen => pure seen.reverse
  | fuel + 1, seen => do
    match ← Reader.next with
    | none => Reader.fault "EOF in backquote substitution"
    | some '\x60' => pure seen.reverse
    | some '\\' =>
      match ← Reader.next with
      | none => Reader.fault "EOF in backquote substitution"
      | some '\n' =>
        Reader.countLine
        backquoted quoted fuel seen
      | some c =>
        if c == '\\' || c == '\x60' || c == '$' || (quoted && c == '"') then
          backquoted quoted fuel (c :: seen)
        else backquoted quoted fuel (c :: '\\' :: seen)
    | some '\n' =>
      Reader.countLine
      backquoted quoted fuel ('\n' :: seen)
    | some c => backquoted quoted fuel (c :: seen)

def within {α : Type} (text : List Char) (line : Nat) (read : Reader α) : Reader α := do
  let r ← get
  set { r with text, line, isWhole := true, inUse := [], isPushed := false, isInner := true }
  let a ← read
  set r
  pure a

def backquote (quoted : Bool) : Reader Part := do
  let text ← backquoted quoted Reader.enough []
  let tree ← within text 1 commands
  pure (.command tree quoted)

/-- A substitution from behind its opening parenthesis on. -/
def substitution (quoted : Bool) : Reader Part := do
  let isInner := (← get).isInner
  modify fun r => { r with isPushed := false, isInner := false }
  let tree ← commands
  modify fun r => { r with isPushed := false, isInner }
  pure (.command tree quoted)

/-- The name of a parameter between braces, with a mark for the question of its length; nothing
when there is none. -/
def bracedName : Reader (Option (Bytes × Bool)) := do
  let name : Reader (List Char) := Reader.takeWhile isNameChar Reader.enough []
  match ← Reader.peekJoined with
  | none => pure none
  | some c =>
    if isNameStart c then pure (some (String.ofList (← name), false))
    else if c.isDigit then
      pure (some (String.ofList (← Reader.takeWhile Char.isDigit Reader.enough []), false))
    else if c == '}' then pure none
    else
      let _ ← Reader.nextJoined
      match c, ← Reader.peekJoined with
      | '#', some d =>
        if isNameStart d then pure (some (String.ofList (← name), true))
        else if d.isDigit then
          pure (some (String.ofList (← Reader.takeWhile Char.isDigit Reader.enough []), true))
        else if d == '}' then pure (some ("#", false))
        else
          let _ ← Reader.nextJoined
          if (← Reader.peekJoined) == some '}' then
            pure (if isSpecial d then some (d.toString, true) else none)
          else
            Reader.unread d
            pure (some ("#", false))
      | c, _ => pure (if isSpecial c then some (c.toString, false) else none)

/-- What stands behind the name of a parameter between braces: what it asks for, and how the
operand is quoted. Nothing more is read of a plain one. -/
def bracedUse (quoting : Quoting) : Reader (Use × Option Quoting) := do
  let inside : Quoting := if quoting.isDouble then .doubleBraced false else .braced
  match ← Reader.nextJoined with
  | none => pure (.bad, some inside)
  | some '}' => pure (.value, none)
  | some ':' =>
    match ← Reader.nextJoined with
    | none => pure (.bad, some inside)
    | some c => pure ((useOf? c true).getD .bad, some inside)
  | some '%' =>
    if (← Reader.peekJoined) == some '%' then
      let _ ← Reader.nextJoined
      pure (.strip true true, some .braced)
    else pure (.strip true false, some .braced)
  | some '#' =>
    if (← Reader.peekJoined) == some '#' then
      let _ ← Reader.nextJoined
      pure (.strip false true, some .braced)
    else pure (.strip false false, some .braced)
  | some c => pure ((useOf? c false).getD .bad, some inside)

def unfinished : Quoting → Option Bytes
  | .plain => none
  | .document => none
  | .braced => some "Missing '\x7d'"
  | .arithmetic _ => some "Missing '))'"
  | _ => some "Unterminated quoted string"

mutual

/-- The parts of a text up to where its quoting ends, the last one first. -/
def parts (quoting : Quoting) (isMarkWord : Bool) : Nat → List Part → Reader (List Part)
  | 0, seen => pure seen
  | fuel + 1, seen => do
    if quoting == .plain && (← Reader.atMark) then return seen
    let quoted := quoting.isDouble
    match ← Reader.next with
    | none =>
      match unfinished quoting with
      | some message => Reader.fault message
      | none => pure seen
    | some '\\' =>
      match ← Reader.next with
      | none => parts quoting isMarkWord fuel (addChar '\\' true seen)
      | some '\n' =>
        Reader.countLine
        parts quoting isMarkWord fuel seen
      | some c =>
        if quoting.escapes c then
          let seen := if quoted then seen else emptyQuote :: seen
          parts quoting isMarkWord fuel (addChar c true seen)
        else parts quoting isMarkWord fuel (addChar c true (addChar '\\' true seen))
    | some '\'' =>
      if quoted then parts quoting isMarkWord fuel (addChar '\'' true seen) else
      let text ← singleQuoted fuel []
      parts quoting isMarkWord fuel (.text (String.ofList text) true :: seen)
    | some '"' =>
      match quoting with
      | .double => pure seen
      | .doubleBraced isInner => parts (.doubleBraced !isInner) isMarkWord fuel seen
      | .document => parts quoting isMarkWord fuel (addChar '"' true seen)
      | .arithmetic _ => parts quoting isMarkWord fuel (addChar '"' true seen)
      | _ =>
        let inside ← parts .double isMarkWord fuel []
        parts quoting isMarkWord fuel (quotation inside ++ seen)
    | some '$' =>
      if isMarkWord then parts quoting isMarkWord fuel (addChar '$' quoted seen) else
      match ← dollar quoting fuel with
      | some part => parts quoting isMarkWord fuel (part :: seen)
      | none => parts quoting isMarkWord fuel (addChar '$' quoted seen)
    | some '\x60' =>
      if isMarkWord then parts quoting isMarkWord fuel (addChar '\x60' quoted seen) else
      let part ← backquote commands quoted
      parts quoting isMarkWord fuel (part :: seen)
    | some '}' =>
      match quoting with
      | .braced => pure seen
      | .doubleBraced false => pure seen
      | _ => parts quoting isMarkWord fuel (addChar '}' quoted seen)
    | some '\n' =>
      if quoting == .plain then
        Reader.unread '\n'
        pure seen
      else
        Reader.countLine
        parts quoting isMarkWord fuel (addChar '\n' quoted seen)
    | some '(' =>
      match quoting with
      | .arithmetic depth => parts (.arithmetic (depth + 1)) isMarkWord fuel (addChar '(' true seen)
      | _ => ordinary '(' quoting isMarkWord fuel seen
    | some ')' =>
      match quoting with
      | .arithmetic (depth + 1) =>
        parts (.arithmetic depth) isMarkWord fuel (addChar ')' true seen)
      | .arithmetic 0 =>
        if (← Reader.peekJoined) == some ')' then
          let _ ← Reader.nextJoined
          pure seen
        else parts quoting isMarkWord fuel (addChar ')' true seen)
      | _ => ordinary ')' quoting isMarkWord fuel seen
    | some c => ordinary c quoting isMarkWord fuel seen

/-- A character without a meaning of its own, unless it ends a word. -/
def ordinary (c : Char) (quoting : Quoting) (isMarkWord : Bool) :
    Nat → List Part → Reader (List Part)
  | 0, seen => pure seen
  | fuel + 1, seen =>
    if quoting == .plain && isMeta c then do
      Reader.unread c
      pure seen
    else parts quoting isMarkWord fuel (addChar c quoting.isDouble seen)

def singleQuoted : Nat → List Char → Reader (List Char)
  | 0, seen => pure seen.reverse
  | fuel + 1, seen => do
    match ← Reader.next with
    | none => Reader.fault "Unterminated quoted string"
    | some '\'' => pure seen.reverse
    | some '\n' =>
      Reader.countLine
      singleQuoted fuel ('\n' :: seen)
    | some c => singleQuoted fuel (c :: seen)

/-- What follows a dollar sign, if it stands for more than itself. -/
def dollar (quoting : Quoting) : Nat → Reader (Option Part)
  | 0 => pure none
  | fuel + 1 => do
    let quoted := quoting.isDouble
    match ← Reader.peekJoined with
    | some '(' =>
      let _ ← Reader.nextJoined
      if (← Reader.peekJoined) == some '(' then
        let _ ← Reader.nextJoined
        let inside ← parts (.arithmetic 0) false fuel []
        pure (some (.arithmetic inside.reverse quoted))
      else pure (some (← substitution commands quoted))
    | some '{' =>
      let _ ← Reader.nextJoined
      match ← bracedName with
      | none =>
        let _ ← parts (if quoted then .doubleBraced false else .braced) false fuel []
        pure (some (.parameter "" .bad [] quoted))
      | some (name, true) =>
        match ← Reader.nextJoined with
        | some '}' => pure (some (.parameter name .length [] quoted))
        | _ =>
          let _ ← parts (if quoted then .doubleBraced false else .braced) false fuel []
          pure (some (.parameter name .bad [] quoted))
      | some (name, false) =>
        match ← bracedUse quoting with
        | (use, none) => pure (some (.parameter name use [] quoted))
        | (use, some inside) =>
          let operand ← parts inside false fuel []
          pure (some (.parameter name use operand.reverse quoted))
    | some c =>
      if isNameStart c then
        let name ← Reader.takeWhile isNameChar Reader.enough []
        pure (some (.parameter (String.ofList name) .value [] quoted))
      else if c.isDigit || isSpecial c then
        let _ ← Reader.nextJoined
        pure (some (.parameter c.toString .value [] quoted))
      else pure none
    | none => pure none

end

/-! ## Tokens -/

def redirectOperator (c : Char) (descriptor : Option Nat) : Reader Token := do
  if c == '>' then
    let d := descriptor.getD 1
    match ← Reader.peekJoined with
    | some '>' => do
      let _ ← Reader.nextJoined
      pure (.redirect d .append false)
    | some '|' => do
      let _ ← Reader.nextJoined
      pure (.redirect d .overwrite false)
    | some '&' => do
      let _ ← Reader.nextJoined
      pure (.redirect d .duplicate false)
    | _ => pure (.redirect d .write false)
  else
    let d := descriptor.getD 0
    match ← Reader.peekJoined with
    | some '<' => do
      let _ ← Reader.nextJoined
      if (← Reader.peekJoined) == some '-' then
        let _ ← Reader.nextJoined
        pure (.redirect d .here true)
      else pure (.redirect d .here false)
    | some '&' => do
      let _ ← Reader.nextJoined
      pure (.redirect d .duplicate false)
    | some '>' => do
      let _ ← Reader.nextJoined
      pure (.redirect d .both false)
    | _ => pure (.redirect d .read false)

def wordToken (isMarkWord : Bool) : Reader Token := do
  let word := (← parts commands .plain isMarkWord Reader.enough []).reverse
  match Word.plain? word, (← get).text with
  | some text, c :: _ =>
    if (c == '<' || c == '>') && text.length = 1 && text.toList.all Char.isDigit then
      let _ ← Reader.next
      redirectOperator c text.toNat?
    else pure (.word word)
  | _, _ => pure (.word word)

def isDoubled (c : Char) : Reader Bool := do
  if (← Reader.peekJoined) == some c then
    let _ ← Reader.nextJoined
    pure true
  else pure false

/-- The next token, in which no word has a special meaning yet. -/
def rawToken (isMarkWord : Bool) : Nat → Reader Token
  | 0 => pure .finish
  | fuel + 1 => do
    match ← Reader.nextJoined with
    | none => pure .finish
    | some ' ' => rawToken isMarkWord fuel
    | some '\t' => rawToken isMarkWord fuel
    | some '#' =>
      modify fun r => { r with text := r.text.dropWhile (· != '\n') }
      let r ← get
      if r.text.isEmpty && !r.isWhole then throw .more
      rawToken isMarkWord fuel
    | some '\n' =>
      Reader.countLine
      pure .newline
    | some '&' => pure (if ← isDoubled '&' then .both else .ampersand)
    | some '|' => pure (if ← isDoubled '|' then .either else .pipe)
    | some ';' => pure (if ← isDoubled ';' then .endOfBranch else .semicolon)
    | some '(' => pure .opening
    | some ')' => pure .closing
    | some '<' => redirectOperator '<' none
    | some '>' => redirectOperator '>' none
    | some c =>
      Reader.unread c
      wordToken commands isMarkWord

def keywords : List Bytes :=
  ["!", "case", "do", "done", "elif", "else", "esac", "fi", "for", "if", "in", "then", "until",
    "while", "\x7b", "\x7d"]

structure Check where
  keywords : Bool := false
  aliases : Bool := false
  skipsNewlines : Bool := false

def Check.command : Check := { keywords := true, aliases := true }

def Check.afterNewlines : Check := { keywords := true, aliases := true, skipsNewlines := true }

def pushAlias (name value : Bytes) : Reader Unit :=
  modify fun r =>
    { r with
      text := value.toList ++ Reader.endOfAlias :: r.text
      inUse := name :: r.inUse, isPushed := false }

/-- The next token, which may be one that has been pushed back. -/
def readToken (check : Check) : Nat → Reader Token
  | 0 => pure .finish
  | fuel + 1 => do
    let r ← get
    let token ← if r.isPushed then pure r.token else rawToken commands false Reader.enough
    modify fun r => { r with isPushed := false, token }
    match token with
    | .newline =>
      if check.skipsNewlines then readToken check fuel else pure .newline
    | .word word =>
      let expectsAlias := (← get).expectsAlias
      modify fun r => { r with expectsAlias := false }
      match Word.plain? word with
      | none => pure token
      | some text =>
        if check.keywords && keywords.contains text then
          modify fun r => { r with token := .keyword text }
          pure (.keyword text)
        else
          let r ← get
          match r.aliases.lookup text with
          | some value =>
            if (check.aliases || expectsAlias) && !r.inUse.contains text then
              pushAlias text value
              readToken check fuel
            else pure token
          | none => pure token
    | token => pure token

def pushBack : Reader Unit := modify fun r => { r with isPushed := true }

/-! ## Here-documents -/

/-- The position of the end of a line, which quotes do not count for. -/
def lineEnd : Nat → Option Char → List Char → List Char → Option (List Char × List Char)
  | 0, _, _, _ => none
  | _, _, _, [] => none
  | fuel + 1, quote, seen, c :: rest =>
    match quote, c with
    | none, '\n' => some (seen.reverse, rest)
    | none, '\\' =>
      match rest with
      | d :: rest => lineEnd fuel none (d :: '\\' :: seen) rest
      | [] => none
    | none, c =>
      lineEnd fuel (if c == '\'' || c == '"' then some c else none) (c :: seen) rest
    | some q, c => lineEnd fuel (if c == q then none else some q) (c :: seen) rest

/-- The lines up to one that is the delimiter, in reverse, how many have been read, and what is
behind them. -/
def documentLines (delimiter : List Char) (isStripped isWhole : Bool) :
    Nat → List (List Char) → List Char → Option (List (List Char) × Nat × List Char)
  | 0, seen, cs => some (seen, seen.length, cs)
  | fuel + 1, seen, cs =>
    if cs.isEmpty then (if isWhole then some (seen, seen.length, []) else none) else
    let line := cs.takeWhile (· != '\n')
    let after := cs.drop line.length
    let line := if isStripped then line.dropWhile (· == '\t') else line
    match after with
    | [] =>
      if !isWhole then none
      else if line == delimiter then some (seen, seen.length + 1, [])
      else some (line :: seen, seen.length + 1, [])
    | _ :: after =>
      if line == delimiter then some (seen, seen.length + 1, after)
      else documentLines delimiter isStripped isWhole fuel ((line ++ ['\n']) :: seen) after

/-- Take the lines of a document out of the text, and read them as a word. -/
def document (isStripped : Bool) (delimiter : Word) : Reader Word := do
  let r ← get
  match lineEnd Reader.enough none [] r.text with
  | none => if r.isWhole then pure [] else throw .more
  | some (line, rest) =>
    let marks := rest.takeWhile Reader.isMark
    match documentLines delimiter.literal.toList isStripped r.isWhole Reader.enough []
        (rest.drop marks.length) with
    | none => throw .more
    | some (lines, count, after) =>
      set { r with text := line ++ '\n' :: marks ++ Reader.linesMark count :: after }
      let text := (lines.reverse).flatten
      if delimiter.any Part.isQuoted then pure [.text (String.ofList text) true]
      else
        let parts ← within text (r.line + 1) (parts commands .document false Reader.enough [])
        pure parts.reverse

end

end PidOne.Machine.Shell
