import RuleAudit.Yaml.Mark

/-!
Scalars: texts without marks around them, texts between quotes, and texts set as blocks. Each has
its own rule for what its line breaks and blanks stand for.
-/

namespace RuleAudit.Yaml

/-! ### Gaps -/

/-- The blanks and line breaks between two words of a scalar. -/
inductive Gap
  | none
  | blanks (t : Text)
  /-- The first break, unless that was taken back, and the later ones; blanks around them do not
  count. -/
  | breaks (first : Option Char) (later : Text)
deriving DecidableEq, Repr

namespace Gap

/-- What a gap stands for: one break for a space, more breaks for all but the first. -/
def text : Gap → Text
  | none => []
  | blanks t => t
  | breaks (some c) later => if c = '\n' then (if later = [] then [' '] else later) else c :: later
  | breaks Option.none later => later

def addBlank (c : Char) : Gap → Gap
  | none => blanks [c]
  | blanks t => blanks (t ++ [c])
  | g => g

def addBreak (c : Char) : Gap → Gap
  | breaks first later => breaks first (later ++ [c])
  | _ => breaks (some c) []

def hasBreak : Gap → Bool
  | breaks _ _ => true
  | _ => false

end Gap

/-! ### Plain scalars -/

/-- Reads a plain scalar. Outside brackets its lines begin at the column `least` or behind it.
`done` is what has been read, in reverse. Also tells whether a line break was the last that was
read. -/
def readPlain (flow : Bool) (least : Nat) (done : Text) (gap : Gap) (m : Mark) :
    Text → Option (Text × Bool × Cursor)
  | [] => some (done.reverse, gap.hasBreak, ⟨m, []⟩)
  | c :: rest =>
    let stop := some (done.reverse, gap.hasBreak, ⟨m, c :: rest⟩)
    if isBlank c then
      if gap.hasBreak ∧ m.column < least ∧ c = '\t' then none
      else readPlain flow least done (gap.addBlank c) m.next rest
    else if isBreak c then readPlain flow least done (gap.addBreak c) m.nextLine rest
    else if gap ≠ .none ∧
        ((!flow ∧ m.column < least) ∨ c = '#' ∨ isAnyDocumentMark ⟨m, c :: rest⟩) then stop
    else if flow ∧ c = ':' ∧ rest.head?.any (fun d => isFlowMark d || d == '?') then none
    else if (c = ':' ∧ atGap rest) ∨ (flow ∧ isFlowMark c) then stop
    else readPlain flow least (c :: (gap.text.reverse ++ done)) .none m.next rest

/-! ### Quoted scalars -/

/-- Reads a scalar from behind its opening single quote. A quote is written twice. -/
def readSingle (done : Text) (gap : Gap) (m : Mark) : Text → Option (Text × Cursor)
  | [] => none
  | '\x27' :: '\x27' :: rest =>
    readSingle ('\x27' :: (gap.text.reverse ++ done)) .none (m.ahead 2) rest
  | c :: rest =>
    if c = '\x27' then some ((gap.text.reverse ++ done).reverse, ⟨m.next, rest⟩)
    else if isAnyDocumentMark ⟨m, c :: rest⟩ then none
    else if isBlank c then readSingle done (gap.addBlank c) m.next rest
    else if isBreak c then readSingle done (gap.addBreak c) m.nextLine rest
    else readSingle (c :: (gap.text.reverse ++ done)) .none m.next rest

/-- The character that a backslash and another character stand for. -/
def escaped? : Char → Option Char
  | '0' => some '\x00'
  | 'a' => some '\x07'
  | 'b' => some '\x08'
  | 't' => some '\t'
  | '\t' => some '\t'
  | 'n' => some '\n'
  | 'v' => some '\x0b'
  | 'f' => some '\x0c'
  | 'r' => some '\r'
  | 'e' => some '\x1b'
  | ' ' => some ' '
  | '"' => some '"'
  | '/' => some '/'
  | '\\' => some '\\'
  | 'N' => some '\u0085'
  | '_' => some '\u00a0'
  | 'L' => some '\u2028'
  | 'P' => some '\u2029'
  | _ => none

/-- The number of digits behind a letter that announces a code. -/
def codeLength? : Char → Option Nat
  | 'x' => some 2
  | 'u' => some 4
  | 'U' => some 8
  | _ => none

/-- How far an escape has been read. -/
inductive Escape
  | none
  /-- The backslash has been read. -/
  | begun
  /-- So many digits of a code are missing; the others have this value. -/
  | code (missing value : Nat)

/-- Reads a scalar from behind its opening double quote. -/
def readDouble (done : Text) (gap : Gap) (escape : Escape) (m : Mark) :
    Text → Option (Text × Cursor)
  | [] => none
  | c :: rest =>
    match escape with
    | .code missing value =>
      match Text.hexDigit? c with
      | none => none
      | some d =>
        let value := 16 * value + d
        if 1 < missing then readDouble done gap (.code (missing - 1) value) m.next rest
        else if value.isValidChar then readDouble (Char.ofNat value :: done) gap .none m.next rest
        else none
    | .begun =>
      if isBreak c then readDouble done (.breaks none []) .none m.nextLine rest
      else
        match escaped? c, codeLength? c with
        | some d, _ => readDouble (d :: done) gap .none m.next rest
        | none, some n => readDouble done gap (.code n 0) m.next rest
        | none, none => none
    | .none =>
      if c = '"' then some ((gap.text.reverse ++ done).reverse, ⟨m.next, rest⟩)
      else if isAnyDocumentMark ⟨m, c :: rest⟩ then none
      else if isBlank c then readDouble done (gap.addBlank c) .none m.next rest
      else if isBreak c then readDouble done (gap.addBreak c) .none m.nextLine rest
      else if c = '\\' then readDouble (gap.text.reverse ++ done) .none .begun m.next rest
      else readDouble (c :: (gap.text.reverse ++ done)) .none .none m.next rest

/-! ### Block scalars -/

/-- What becomes of the line breaks at the end of a block. -/
inductive Chomp
  | strip
  | clip
  | keep
deriving DecidableEq, Repr

/-- The rule of a sign behind the mark of a block. -/
def Chomp.ofSign? : Char → Option Chomp
  | '-' => some strip
  | '+' => some keep
  | _ => none

/-- A digit that says by how many columns a block is set in; `0` is none. -/
def increment? (c : Char) : Option Nat :=
  if c.isDigit ∧ c ≠ '0' then some (c.toNat - '0'.toNat) else none

/-- The signs behind the mark of a block, in either order. -/
def readHeader (c : Cursor) : Chomp × Option Nat × Cursor :=
  match c.rest with
  | a :: b :: _ =>
    match Chomp.ofSign? a, increment? b, increment? a, Chomp.ofSign? b with
    | some chomp, some n, _, _ => (chomp, some n, c.ahead 2)
    | some chomp, none, _, _ => (chomp, none, c.ahead 1)
    | none, _, some n, some chomp => (chomp, some n, c.ahead 2)
    | none, _, some n, none => (.clip, some n, c.ahead 1)
    | none, _, none, _ => (.clip, none, c)
  | [a] =>
    match Chomp.ofSign? a, increment? a with
    | some chomp, _ => (chomp, none, c.ahead 1)
    | none, some n => (.clip, some n, c.ahead 1)
    | none, none => (.clip, none, c)
  | [] => (.clip, none, c)

/-- Passes over blanks, a comment and the line break behind them. Nothing else may stand there. -/
def passLineEnd (c : Cursor) : Option Cursor :=
  let c := c.skip isBlank
  let c := if c.rest.head? = some '#' then c.skip (!isBreak ·) else c
  match c.rest with
  | [] => some c
  | d :: rest => if isBreak d then some ⟨c.mark.nextLine, rest⟩ else none

/-- The greatest column reached by the spaces of the lines before the first word of a block. There
must be no tab among them. -/
def leadingColumn (column greatest : Nat) : Text → Option Nat
  | [] => some (max column greatest)
  | c :: rest =>
    if c = ' ' then leadingColumn (column + 1) greatest rest
    else if c = '\t' then none
    else if isBreak c then leadingColumn 0 (max column greatest) rest
    else some (max column greatest)

/-- What has been read of a block. -/
structure Block where
  /-- The text without the breaks at its end, in reverse. -/
  done : Text
  /-- The break of the last line that is not empty. -/
  lineBreak : Option Char
  /-- The breaks of the empty lines behind it. -/
  emptyLines : Text
  /-- The last line that is not empty begins with a blank. -/
  setIn : Bool
  /-- The reading is inside a line. -/
  inLine : Bool

namespace Block

/-- Nothing has been read. -/
def start : Block := ⟨[], none, [], false, false⟩

/-- A line begins with a character. In a folded block, a break between two lines that are not set in
stands for a space, or for nothing if there are empty lines between them. -/
def beginLine (literal : Bool) (c : Char) (b : Block) : Block :=
  let folds := !literal && b.lineBreak == some '\n' && !b.setIn && !isBlank c
  let joint := if folds then (if b.emptyLines = [] then [' '] else []) else b.lineBreak.toList
  ⟨c :: (b.emptyLines.reverse ++ joint ++ b.done), none, [], isBlank c, true⟩

/-- The text of a block that has been read. -/
def text (chomp : Chomp) (b : Block) : Text :=
  b.done.reverse ++
    match chomp with
    | .strip => []
    | .clip => b.lineBreak.toList
    | .keep => b.lineBreak.toList ++ b.emptyLines

end Block

/-- Reads the lines of a block that is set in by `indent` columns. -/
def readLines (literal : Bool) (indent : Nat) (b : Block) (m : Mark) : Text → Option (Block × Cursor)
  | [] => some (b, ⟨m, []⟩)
  | c :: rest =>
    if b.inLine then
      if isBreak c then
        readLines literal indent { b with lineBreak := some c, inLine := false } m.nextLine rest
      else readLines literal indent { b with done := c :: b.done } m.next rest
    else if m.column < indent ∧ c = ' ' then readLines literal indent b m.next rest
    else if m.column < indent ∧ c = '\t' then none
    else if isBreak c then
      readLines literal indent { b with emptyLines := b.emptyLines ++ [c] } m.nextLine rest
    else if m.column < indent then some (b, ⟨m, c :: rest⟩)
    else readLines literal indent (b.beginLine literal c) m.next rest

/-- Reads a block scalar from behind its mark, inside a block whose contents begin at the column
`least` or behind it. -/
def readBlock (literal : Bool) (least : Nat) (c : Cursor) : Option (Text × Cursor) := do
  let (chomp, increment, c) := readHeader c
  let c ← passLineEnd c
  let indent ←
    match increment with
    | some n => pure (least - 1 + n)
    | none => do
      let column ← leadingColumn c.mark.column 0 c.rest
      pure (max column (max least 1))
  let (b, c) ← readLines literal indent .start c.mark c.rest
  return (b.text chomp, c)

end RuleAudit.Yaml
