import RuleAudit.Yaml.Mark

/-!
The tokens of a YAML text, and the reading of those that are words: tags, anchors and directives.
-/

namespace RuleAudit.Yaml

/-- A token. Anchors are numbered, and an alias has the number of its anchor. -/
inductive Token
  | version (major minor : Nat)
  | tagShorthand (handle start : Text)
  | documentStart
  | documentEnd
  | blockSequence
  | blockMapping
  | blockEnd
  | flowSequence
  | flowSequenceEnd
  | flowMapping
  | flowMappingEnd
  /-- The hyphen of a block sequence. -/
  | entry
  | comma
  | key
  | value
  | alias (id : Nat)
  | anchor (id : Nat)
  | tag (handle rest : Text)
  | scalar (text : Text) (isPlain : Bool)
deriving DecidableEq, Repr

/-! ### Tags -/

/-- The number of bytes that follow the first byte of a character. -/
def tailLength? (n : Nat) : Option Nat :=
  if n < 0x80 then some 0
  else if 0xC0 ≤ n ∧ n < 0xE0 then some 1
  else if 0xE0 ≤ n ∧ n < 0xF0 then some 2
  else if 0xF0 ≤ n ∧ n < 0xF8 then some 3
  else none

/-- Reads the characters of an address; a percent sign and two digits stand for a byte. `missing` is
the number of bytes that must follow. -/
def readAddress (bracketed : Bool) (missing : Nat) : Text → Option (Text × Text)
  | '%' :: a :: b :: rest => do
    let high ← Text.hexDigit? a
    let low ← Text.hexDigit? b
    let byte := 16 * high + low
    let missing ←
      if missing = 0 then tailLength? byte
      else if 0x80 ≤ byte ∧ byte < 0xC0 then some (missing - 1)
      else none
    let (t, rest) ← readAddress bracketed missing rest
    some (Char.ofNat byte :: t, rest)
  | c :: rest =>
    if missing ≠ 0 ∨ c = '%' then none
    else if isAddress bracketed c then do
      let (t, rest) ← readAddress bracketed 0 rest
      some (c :: t, rest)
    else some ([], c :: rest)
  | [] => if missing = 0 then some ([], []) else none

/-- An address that is not empty. -/
def readSomeAddress (bracketed : Bool) (t : Text) : Option (Text × Text) := do
  let (address, rest) ← readAddress bracketed 0 t
  if address = [] then none else some (address, rest)

/-- Reads a tag from behind its exclamation mark: its handle and the rest of it. A tag in angle
brackets has no handle, and neither has the exclamation mark by itself. -/
def readTag (flow : Bool) (t : Text) : Option (Text × Text × Text) := do
  let (handle, suffix, rest) ←
    match t with
    | '<' :: t => do
      let (address, rest) ← readSomeAddress true t
      match rest with
      | '>' :: rest => some ([], address, rest)
      | _ => none
    | t => do
      let word := t.takeWhile isWord
      match t.dropWhile isWord with
      | '!' :: t => do
        let (address, rest) ← readSomeAddress false t
        some ('!' :: (word ++ ['!']), address, rest)
      | t => do
        let (address, rest) ← readAddress false 0 t
        let suffix := word ++ address
        if suffix = [] then some ([], ['!'], rest) else some (['!'], suffix, rest)
  if atGap rest ∨ (flow ∧ rest.head? = some ',') then some (handle, suffix, rest) else none

/-! ### Anchors -/

/-- A character that may stand right behind an anchor, besides blanks and breaks. -/
def endsAnchor (c : Char) : Bool := c ∈ ['?', ':', ',', ']', '\x7d', '%', '@', '\x60']

/-- Reads the name of an anchor or an alias. -/
def readName (t : Text) : Option (Text × Text) :=
  let name := t.takeWhile isWord
  let rest := t.dropWhile isWord
  if name ≠ [] ∧ (atGap rest ∨ rest.head?.any endsAnchor) then some (name, rest) else none

/-! ### Directives -/

/-- Reads a number of at most nine digits. -/
def readVersionNumber (t : Text) : Option (Nat × Text) :=
  let digits := t.takeWhile Char.isDigit
  if digits ≠ [] ∧ digits.length ≤ 9 then
    some (Text.digitsValue digits, t.dropWhile Char.isDigit)
  else none

/-- Reads the version of the language. -/
def readVersion (t : Text) : Option (Token × Text) := do
  let (major, t) ← readVersionNumber (t.dropWhile isBlank)
  match t with
  | '.' :: t => do
    let (minor, t) ← readVersionNumber t
    some (.version major minor, t)
  | _ => none

/-- Reads the handle of a shorthand: one or two exclamation marks, the latter perhaps with a word
between them. -/
def readHandle : Text → Option (Text × Text)
  | '!' :: t =>
    match t.takeWhile isWord, t.dropWhile isWord with
    | word, '!' :: t => some ('!' :: (word ++ ['!']), t)
    | [], t => some (['!'], t)
    | _, _ => none
  | _ => none

/-- Reads a shorthand for tags: its handle and what that stands for. -/
def readShorthand (t : Text) : Option (Token × Text) := do
  let (handle, t) ← readHandle (t.dropWhile isBlank)
  if !t.head?.any isBlank then none
  let (start, t) ← readSomeAddress true (t.dropWhile isBlank)
  if atGap t then some (.tagShorthand handle start, t) else none

/-- Reads a directive from behind its percent sign. -/
def readDirective (t : Text) : Option (Token × Text) :=
  let name := t.takeWhile isWord
  let t := t.dropWhile isWord
  if !atGap t then none
  else if name = ("YAML" : Text) then readVersion t
  else if name = ("TAG" : Text) then readShorthand t
  else none

end RuleAudit.Yaml
