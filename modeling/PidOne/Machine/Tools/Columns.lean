import PidOne.Machine.Tools.Letters

/-!
# Tools that work on the columns of lines
-/

namespace PidOne.Machine.Tool

open Text (Bytes)
open Routine (Program)

/-! ## Chosen parts -/

/-- Places from one on; without a last one all that follow. -/
structure Span where
  first : Nat
  last : Option Nat
  deriving DecidableEq, Repr

def Span.has (s : Span) (n : Nat) : Bool := s.first ≤ n && s.last.all (n ≤ ·)

structure SpanWords where
  numbered : Bytes
  invalid : Bytes
  badRange : Bytes
  tooLarge : Bytes

def fieldWords : SpanWords :=
  { numbered := "fields are numbered from 1", invalid := "invalid field value"
    badRange := "invalid field range", tooLarge := "field number" }

def byteWords : SpanWords :=
  { numbered := "byte/character positions are numbered from 1"
    invalid := "invalid byte/character position", badRange := "invalid byte or character range"
    tooLarge := "byte/character offset" }

def span? (w : SpanWords) (item : List Char) : Except Bytes Span := do
  let digits := item.takeWhile Char.isDigit
  let number (ds : List Char) : Except Bytes Nat :=
    let n := Text.readDigits 10 ds
    if n < 18446744073709551615 then .ok n
    else .error s!"{w.tooLarge} {quoted (String.ofList ds)} is too large"
  match item.drop digits.length with
  | [] =>
    let n ← number digits
    if n = 0 then throw w.numbered
    .ok ⟨n, some n⟩
  | '-' :: rest =>
    let low ← if digits.isEmpty then .ok 1 else number digits
    if low = 0 then throw w.numbered
    let more := rest.takeWhile Char.isDigit
    match rest.drop more.length with
    | [] =>
      if more.isEmpty then
        if digits.isEmpty then .error "invalid range with no endpoint: -"
        else .ok ⟨low, none⟩
      else
        let high ← number more
        if high < low then throw "invalid decreasing range"
        .ok ⟨low, some high⟩
    | '-' :: _ => .error w.badRange
    | other => .error s!"{w.invalid} {quoted (String.ofList other)}"
  | other => .error s!"{w.invalid} {quoted (String.ofList other)}"

def spans? (w : SpanWords) (text : Bytes) : Except Bytes (List Span) :=
  let items := (String.ofList (text.toList.map fun c => if c == ' ' || c == '\t' then ',' else c)).splitOn ","
  items.mapM fun item => span? w item.toList

structure Cutting where
  spans : List Span
  isInverted : Bool
  byFields : Bool
  delimiter : Char := '\t'
  skipsOthers : Bool := false
  output : Option Bytes := none

def Cutting.wants (o : Cutting) (n : Nat) : Bool := o.spans.any (·.has n) != o.isInverted

/-- The chosen characters; between those that are not neighbours in one piece stands the text for
output. -/
def Cutting.chars (o : Cutting) (line : Bytes) : Bytes :=
  let chosen := (line.toList.zipIdx 1).filter fun (_, n) => o.wants n
  match o.output with
  | none => String.ofList (chosen.map (·.1))
  | some mark =>
    let startsPiece (n : Nat) : Bool :=
      !o.wants (n - 1) || n = 1 ||
        (!o.isInverted && o.spans.any (·.first == n) &&
          !o.spans.any fun s => s.first < n && s.last.all (n ≤ ·))
    String.join (chosen.mapIdx fun k (c, n) =>
      (if k > 0 && startsPiece n then mark else "") ++ String.ofList [c])

/-- A line without the delimiter is kept whole, or left out. -/
def Cutting.line? (o : Cutting) (line : Bytes) : Option Bytes :=
  if !o.byFields then some (o.chars line) else
  let delimiter := String.ofList [o.delimiter]
  let fields := line.splitOn delimiter
  if fields.length = 1 then if o.skipsOthers then none else some line
  else
    let chosen := (fields.zipIdx 1).filter fun (_, n) => o.wants n
    some ((o.output.getD delimiter).intercalate (chosen.map (·.1)))

def mapLines (names : List Bytes) (shown : Bytes → Option Bytes) : Tool Unit :=
  names.forM fun name => withInput name fun d => do
    let answer ← eachLine d () fun _ line => do
      match shown line with
      | some text => printLine text
      | none => pure ()
      pure ((), true)
    pure (answer.map fun _ => ())

def cut (arguments : List Bytes) : Tool Unit := do
  let g ← options
    [⟨'b', "bytes", .value⟩, ⟨'c', "characters", .value⟩, ⟨'d', "delimiter", .value⟩,
      ⟨'f', "fields", .value⟩, ⟨'n', "", .nothing⟩, ⟨'s', "only-delimited", .nothing⟩,
      ⟨'z', "zero-terminated", .nothing⟩, ⟨'1', "complement", .nothing⟩,
      ⟨'2', "output-delimiter", .value⟩] arguments
  let lists := g.options.filter fun x => "bcf".toList.contains x.1
  if lists.length > 1 then misuse "only one list may be specified"
  if (g.value? 'd').any (·.length > 1) then misuse "the delimiter must be a single character"
  match lists with
  | [] => misuse "you must specify a list of bytes, characters, or fields"
  | (letter, text) :: _ =>
    let byFields := letter == 'f'
    if !byFields && g.has 'd' then
      misuse "an input delimiter may be specified only when operating on fields"
    if !byFields && g.has 's' then
      misuse "suppressing non-delimited lines makes sense\n\tonly when operating on fields"
    match spans? (if byFields then fieldWords else byteWords) text with
    | .error message => misuse message
    | .ok spans =>
      let o : Cutting :=
        { spans, isInverted := g.has '1', byFields, skipsOthers := g.has 's'
          delimiter := ((g.value? 'd').map fun d => d.toList.headD '\x00').getD '\t'
          output := g.value? '2' }
      mapLines (inputsOf g) o.line?

/-! ## Lines side by side -/

/-- The texts of inputs; standard input gives what is left of it. -/
def readInputs (names : List Bytes) : Tool (List Bytes) :=
  names.mapM fun name => do
    match ← openInput name with
    | .error number => die s!"{nameQuoted name}: {number.message}"
    | .ok d =>
      match ← readWhole d with
      | .error number => die s!"{nameQuoted name}: {number.message}"
      | .ok text =>
        closeInput name d
        pure text

/-- Texts with delimiters between them, which are used in turn. -/
def joinWith (delimiters : List Char) (texts : List Bytes) : Bytes :=
  match texts with
  | [] => ""
  | first :: rest =>
    first ++ String.join (rest.mapIdx fun k text =>
      let d := delimiters.getD (k % delimiters.length) '\x00'
      (if delimiters.isEmpty || d == '\x00' then "" else String.ofList [d]) ++ text)

def paste (arguments : List Bytes) : Tool Unit := do
  let g ← options
    [⟨'d', "delimiters", .value⟩, ⟨'s', "serial", .nothing⟩, ⟨'z', "", .nothing⟩] arguments
  let (ls, _) := match g.value? 'd' with
    | some text => readLetters (text.length + 1) text.toList
    | none => ([('\t', false)], false)
  let delimiters := ls.map fun (c, isEscaped) => if isEscaped && c == '0' then '\x00' else c
  let names := inputsOf g
  -- Each mention of standard input takes the lines in turn.
  let shares := names.countP (· == "-")
  let texts ← readInputs names.eraseDups
  let given := (names.eraseDups.zip texts).map fun (name, text) => (name, linesOf text)
  if g.has 's' then
    names.eraseDups.forM fun name =>
      printLine (joinWith delimiters ((given.lookup name).getD []))
  else
    let columns := (names.foldl (fun (done, k) name =>
      let ls := (given.lookup name).getD []
      let column := if name == "-" && shares > 1 then
          (ls.zipIdx.filter fun (_, i) => i % shares = k).map (·.1)
        else ls
      (done ++ [column], if name == "-" then k + 1 else k)) (([] : List (List Bytes)), 0)).1
    let height := (columns.map List.length).foldl max 0
    (List.range height).forM fun i =>
      printLine (joinWith delimiters (columns.map fun c => c.getD i ""))

def nl (arguments : List Bytes) : Tool Unit := do
  let g ← options
    [⟨'b', "body-numbering", .value⟩, ⟨'w', "number-width", .value⟩,
      ⟨'s', "number-separator", .value⟩, ⟨'v', "starting-line-number", .value⟩,
      ⟨'i', "line-increment", .value⟩, ⟨'n', "number-format", .value⟩] arguments
  let width := ((g.value? 'w').bind String.toNat?).getD 6
  let separator := (g.value? 's').getD "\t"
  let increment := ((g.value? 'i').bind String.toNat?).getD 1
  let shown (n : Nat) : Bytes :=
    match g.value? 'n' with
    | some "ln" => toString n ++ String.ofList (List.replicate (width - (toString n).length) ' ')
    | some "rz" => Text.zeroPadded width n
    | _ => padLeft width (toString n)
  let numbersAll := g.value? 'b' == some "a"
  let rec go (n : Nat) : List Bytes → Tool Unit
    | [] => pure ()
    | name :: rest => do
      match ← openInput name with
      | .error number =>
        fail s!"{nameQuoted name}: {number.message}"
        go n rest
      | .ok d =>
        let answer ← eachLine d n fun n line => do
          if (line.isEmpty && !numbersAll) || g.value? 'b' == some "n" then
            printLine (String.ofList (List.replicate (width + separator.length) ' ') ++ line)
            pure (n, true)
          else
            printLine (shown n ++ separator ++ line)
            pure (n + increment, true)
        closeInput name d
        match answer with
        | .ok (n, _) => go n rest
        | .error number =>
          fail s!"{nameQuoted name}: {number.message}"
          go n rest
  go (((g.value? 'v').bind String.toNat?).getD 1) (inputsOf g)

def foldLine (width : Nat) : Nat → List Char → List (List Char)
  | 0, cs => [cs]
  | fuel + 1, cs =>
    if cs.length ≤ width then [cs] else cs.take width :: foldLine width fuel (cs.drop width)

def fold (arguments : List Bytes) : Tool Unit := do
  let arguments := match arguments with
    | a :: rest => match numberOption? a with
      | some digits => "-w" :: digits :: rest
      | none => a :: rest
    | [] => []
  let g ← options
    [⟨'w', "width", .value⟩, ⟨'b', "bytes", .nothing⟩, ⟨'s', "spaces", .nothing⟩] arguments
  let width ← match g.value? 'w' with
    | none => pure 80
    | some text => match text.toNat? with
      | some 0 => die s!"invalid number of columns: {quoted text}"
      | some n => pure n
      | none => die s!"invalid number of columns: {quoted text}"
  (inputsOf g).forM fun name => withInput name fun d => do
    match ← readWhole d with
    | .error number => pure (.error number)
    | .ok text =>
      let folded := (text.splitOn "\n").map fun line =>
        "\n".intercalate ((foldLine width line.length line.toList).map String.ofList)
      print ("\n".intercalate folded)
      pure (.ok ())

end PidOne.Machine.Tool
