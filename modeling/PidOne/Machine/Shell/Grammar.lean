import PidOne.Machine.Shell.Scanner

/-!
# Reading commands

Recursive descent over tokens. A script is read one line of commands after another, so that what
stands before a fault is run, and so that aliases count from the next line on.
-/

namespace PidOne.Machine.Shell

open Text (Bytes)

def quoteToken (text : Bytes) : Bytes := "\"" ++ text ++ "\""

def Token.name : Token → Bytes
  | .finish => "end of file"
  | .newline => "newline"
  | .semicolon => quoteToken ";"
  | .ampersand => quoteToken "&"
  | .both => quoteToken "&&"
  | .either => quoteToken "||"
  | .pipe => quoteToken "|"
  | .opening => quoteToken "("
  | .closing => quoteToken ")"
  | .endOfBranch => quoteToken ";;"
  | .redirect .. => "redirection"
  | .word _ => "word"
  | .keyword text => quoteToken text

/-- Where a list of commands stands, which says where it ends and whether it may be empty. -/
inductive ListKind
  | line
  | body
  | part
  deriving DecidableEq, Repr

inductive Line
  | finish
  | blank
  /-- Commands, and whether the text ends right behind them. -/
  | commands (tree : Tree) (isLast : Bool)

namespace Grammar

def unexpected {α : Type} (expected : Option Bytes) : Reader α := do
  let name := (← get).token.name
  Reader.fault (name ++ " unexpected" ++ match expected with
    | some text => " (expecting " ++ text ++ ")"
    | none => "")

def endsList : Token → Bool
  | .finish => true
  | .closing => true
  | .endOfBranch => true
  | .keyword text =>
    ["do", "done", "elif", "else", "esac", "fi", "then", "\x7d"].contains text
  | _ => false

def isKeyword (text : Bytes) : Token → Bool
  | .keyword k => k == text
  | _ => false

/-- The names of the shell's own commands that no function may have. -/
def reservedNames : List Bytes :=
  [".", ":", "break", "continue", "eval", "exec", "exit", "export", "local", "readonly", "return",
    "set", "shift", "times", "trap", "unset"]

mutual

def list (kind : ListKind) : Nat → Option Tree → Reader (Option Tree)
  | 0, seen => pure seen
  | fuel + 1, seen => do
    let isLine := kind == .line
    let check : Check := { keywords := true, aliases := true, skipsNewlines := !isLine }
    match ← token check fuel with
    | .newline => pure seen
    | .finish =>
      pushBack
      pure seen
    | t =>
      pushBack
      if (kind == .part || (kind == .body && seen.isSome)) && endsList t then return seen
      let tree ← andOr fuel
      let next ← token {} fuel
      let tree := match next with
        | .ampersand => inBackground tree
        | _ => tree
      let seen := some (match seen with
        | some first => .sequence first tree
        | none => tree)
      match next with
      | .newline =>
        pushBack
        list kind fuel seen
      | .finish =>
        pushBack
        list kind fuel seen
      | .ampersand => list kind fuel seen
      | .semicolon => list kind fuel seen
      | _ =>
        if isLine then unexpected none else
        pushBack
        pure seen

def token (check : Check) : Nat → Reader Token
  | 0 => pure .finish
  | fuel + 1 => readToken (substituted fuel) check Reader.enough

/-- The commands of a substitution up to its closing parenthesis or the end of its text. -/
def substituted : Nat → Reader (Option Tree)
  | 0 => pure none
  | fuel + 1 => do
    let isInner := (← get).isInner
    let tree ← list .part fuel none
    if isInner then return tree
    match ← token {} fuel with
    | .closing => pure tree
    | _ => unexpected (some (quoteToken ")"))

def inBackground (tree : Tree) : Tree :=
  match tree with
  | .pipe line commands _ => .pipe line commands true
  | .group line body redirections => .background line body redirections
  | tree => .background 0 tree []

def andOr : Nat → Reader Tree
  | 0 => unexpected none
  | fuel + 1 => do
    let first ← pipeline fuel
    andOrRest fuel first

def andOrRest : Nat → Tree → Reader Tree
  | 0, left => pure left
  | fuel + 1, left => do
    match ← token {} fuel with
    | .both =>
      let right ← checked .afterNewlines fuel
      andOrRest fuel (.both left right)
    | .either =>
      let right ← checked .afterNewlines fuel
      andOrRest fuel (.either left right)
    | _ =>
      pushBack
      pure left

def checked (check : Check) : Nat → Reader Tree
  | 0 => unexpected none
  | fuel + 1 => do
    let _ ← token check fuel
    pushBack
    pipeline fuel

def pipeline : Nat → Reader Tree
  | 0 => unexpected none
  | fuel + 1 => do
    match ← token {} fuel with
    | .keyword "!" =>
      let _ ← token .command fuel
      pushBack
      let tree ← piped fuel
      pure (.negation tree)
    | _ =>
      pushBack
      piped fuel

def piped : Nat → Reader Tree
  | 0 => unexpected none
  | fuel + 1 => do
    let line := (← get).line
    let first ← command fuel
    let more ← pipedRest fuel
    pure (if more.isEmpty then first else .pipe line (first :: more) false)

def pipedRest : Nat → Reader (List Tree)
  | 0 => pure []
  | fuel + 1 => do
    match ← token {} fuel with
    | .pipe =>
      let _ ← token .afterNewlines fuel
      pushBack
      let next ← command fuel
      let more ← pipedRest fuel
      pure (next :: more)
    | _ =>
      pushBack
      pure []

def expect (text : Bytes) : Nat → Reader Unit
  | 0 => unexpected none
  | fuel + 1 => do
    let t ← token {} fuel
    if isKeyword text t then pure () else unexpected (some (quoteToken text))

/-- The commands inside another one. There are none only at the end of the script, where what
closes them is missing too. -/
def body : Nat → Reader Tree
  | 0 => unexpected none
  | fuel + 1 => do pure ((← list .body fuel none).getD default)

def command : Nat → Reader Tree
  | 0 => unexpected none
  | fuel + 1 => do
    let line := (← get).line
    match ← token {} fuel with
    | .keyword "if" => do
      let tree ← conditional fuel
      expect "fi" fuel
      redirected line tree fuel
    | .keyword "while" => do
      let tree ← repeated true fuel
      redirected line tree fuel
    | .keyword "until" => do
      let tree ← repeated false fuel
      redirected line tree fuel
    | .keyword "for" => do
      let tree ← each fuel
      redirected line tree fuel
    | .keyword "case" => do
      let tree ← choice fuel
      redirected line tree fuel
    | .opening => do
      let tree ← body fuel
      match ← token {} fuel with
      | .closing => pure ()
      | _ => unexpected (some (quoteToken ")"))
      let rs ← redirections .command fuel
      pure (.subshell line tree rs)
    | .keyword "\x7b" => do
      let tree ← body fuel
      expect "\x7d" fuel
      redirected line tree fuel
    | .word _ =>
      pushBack
      simple line true [] [] [] fuel
    | .redirect .. =>
      pushBack
      simple line true [] [] [] fuel
    | _ => unexpected none

def redirected (line : Nat) (tree : Tree) : Nat → Reader Tree
  | 0 => pure tree
  | fuel + 1 => do
    let rs ← redirections .command fuel
    pure (if rs.isEmpty then tree else .group line tree rs)

def redirections (check : Check) : Nat → Reader (List Redirection)
  | 0 => pure []
  | fuel + 1 => do
    match ← token check fuel with
    | .redirect descriptor mode isStripped =>
      let r ← target descriptor mode isStripped fuel
      let more ← redirections {} fuel
      pure (r :: more)
    | _ =>
      pushBack
      pure []

def target (descriptor : Nat) (mode : Mode) (isStripped : Bool) : Nat → Reader Redirection
  | 0 => unexpected none
  | fuel + 1 => do
    match mode with
    | .here =>
      let t ← rawToken (substituted fuel) true Reader.enough
      modify fun r => { r with token := t }
      match t with
      | .word word =>
        let text ← document (substituted fuel) isStripped word
        pure ⟨descriptor, mode, text⟩
      | _ => unexpected none
    | mode =>
      match ← token {} fuel with
      | .word word => pure ⟨descriptor, mode, word⟩
      | _ => unexpected none

/-- A simple command, of which some parts have been read, each in reverse. -/
def simple (line : Nat) (isFirst : Bool) (assignments words : List Word)
    (rs : List Redirection) : Nat → Reader Tree
  | 0 => unexpected none
  | fuel + 1 => do
    match ← token { aliases := isFirst } fuel with
    | .word word =>
      if isFirst && (assignment? word).isSome then
        simple line true (word :: assignments) words rs fuel
      else simple line false assignments (word :: words) rs fuel
    | .redirect descriptor mode isStripped =>
      let r ← target descriptor mode isStripped fuel
      simple line isFirst assignments words (r :: rs) fuel
    | .opening =>
      match words, assignments, rs with
      | [word], [], [] =>
        match ← token {} fuel with
        | .closing => pure ()
        | _ => unexpected (some (quoteToken ")"))
        let name := word.literal
        if !isName name || reservedNames.contains name then
          Reader.fault "Bad function name"
        else
          let _ ← token .afterNewlines fuel
          pushBack
          let line := (← get).line
          let tree ← command fuel
          pure (.definition line name tree)
      | _, _, _ =>
        pushBack
        pure (.simple line assignments.reverse words.reverse rs.reverse)
    | _ =>
      pushBack
      pure (.simple line assignments.reverse words.reverse rs.reverse)

def conditional : Nat → Reader Tree
  | 0 => unexpected none
  | fuel + 1 => do
    let test ← body fuel
    expect "then" fuel
    let yes ← body fuel
    match ← token {} fuel with
    | .keyword "else" =>
      let no ← body fuel
      pure (.conditional test yes (some no))
    | .keyword "elif" =>
      let no ← conditional fuel
      pure (.conditional test yes (some no))
    | _ =>
      pushBack
      pure (.conditional test yes none)

def repeated (positive : Bool) : Nat → Reader Tree
  | 0 => unexpected none
  | fuel + 1 => do
    let test ← body fuel
    expect "do" fuel
    let tree ← body fuel
    expect "done" fuel
    pure (.loop positive test tree)

def each : Nat → Reader Tree
  | 0 => unexpected none
  | fuel + 1 => do
    let line := (← get).line
    let name ← match ← token {} fuel with
      | .word word =>
        match Word.plain? word with
        | some text => if isName text then pure text else Reader.fault "Bad for loop variable"
        | none => Reader.fault "Bad for loop variable"
      | _ => Reader.fault "Bad for loop variable"
    let words ← match ← token .afterNewlines fuel with
      | .keyword "in" => values fuel
      | .semicolon => pure [[.parameter "@" .value [] true]]
      | _ =>
        pushBack
        pure [[.parameter "@" .value [] true]]
    match ← token .afterNewlines fuel with
    | .keyword "do" => pure ()
    | _ => unexpected (some (quoteToken "do"))
    let tree ← body fuel
    expect "done" fuel
    pure (.each line name words tree)

def values : Nat → Reader (List Word)
  | 0 => pure []
  | fuel + 1 => do
    match ← token {} fuel with
    | .word word =>
      let more ← values fuel
      pure (word :: more)
    | .newline => pure []
    | .semicolon => pure []
    | _ => unexpected none

def choice : Nat → Reader Tree
  | 0 => unexpected none
  | fuel + 1 => do
    let line := (← get).line
    match ← token {} fuel with
    | .word subject =>
      match ← token .afterNewlines fuel with
      | .keyword "in" =>
        let found ← branches fuel
        pure (.choice line subject found)
      | _ => unexpected (some (quoteToken "in"))
    | _ => unexpected (some "word")

def branches : Nat → Reader (List (List Word × Option Tree))
  | 0 => pure []
  | fuel + 1 => do
    match ← token { keywords := true, skipsNewlines := true } fuel with
    | .keyword "esac" => pure []
    | t =>
      let first ← match t with
        | .opening => token {} fuel
        | t => pure t
      let patterns ← alternatives first fuel
      let tree ← list .part fuel none
      match ← token { keywords := true, skipsNewlines := true } fuel with
      | .keyword "esac" => pure [(patterns, tree)]
      | .endOfBranch =>
        let more ← branches fuel
        pure ((patterns, tree) :: more)
      | _ => unexpected (some (quoteToken ";;"))

/-- The patterns of a branch from the first one on, which end with a parenthesis. -/
def alternatives (first : Token) : Nat → Reader (List Word)
  | 0 => pure []
  | fuel + 1 => do
    let word : Word := match first with
      | .word word => word
      | .keyword text => [.text text false]
      | _ => []
    match ← token {} fuel with
    | .pipe =>
      let next ← token {} fuel
      let more ← alternatives next fuel
      pure (word :: more)
    | .closing => pure [word]
    | _ => unexpected (some (quoteToken ")"))

end

end Grammar

def readLine (r : Reading) : Except Stop (Line × Reading) := do
  let r := { r with isPushed := false, inUse := [], expectsAlias := false }
  match (Grammar.list .line Reader.enough none).run r with
  | .error stop => .error stop
  | .ok (none, r) =>
    match r.token with
    | .finish => .ok (.finish, r)
    | _ => .ok (.blank, r)
  | .ok (some tree, r) =>
    .ok (.commands tree (match r.token with
      | .finish => true
      | _ => false), r)

end PidOne.Machine.Shell
