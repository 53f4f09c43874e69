import RuleAudit.Query.Property

/-!
Patterns of label values: which texts are patterns, and which patterns match the empty text. What
else a pattern matches does not matter here, so a pattern is kept only as far as these two questions
need it.
-/

namespace RuleAudit.Query

/-- The shape of a pattern. -/
inductive Pattern
  /-- Nothing at all. -/
  | blank
  /-- A setting for the rest of the group. -/
  | setting
  /-- One character of some kind; a class in brackets adds to the depth. -/
  | character (isClass : Bool)
  /-- A condition on the place, and whether it holds in the empty text. -/
  | condition (holds : Bool)
  | group (body : Pattern)
  | repetition (least : Nat) (most : Option Nat) (body : Pattern)
  | sequence (parts : List Pattern)
  | choice (parts : List Pattern)

namespace Pattern

/-! ### Properties of a pattern -/

mutual
/-- The pattern matches the empty text. -/
def matchesEmpty : Pattern → Bool
  | blank => true
  | setting => true
  | character _ => false
  | condition holds => holds
  | group body => body.matchesEmpty
  | repetition least _ body => least == 0 || body.matchesEmpty
  | sequence parts => allMatchEmpty parts
  | choice parts => someMatchesEmpty parts

def allMatchEmpty : List Pattern → Bool
  | [] => true
  | p :: ps => p.matchesEmpty && allMatchEmpty ps

def someMatchesEmpty : List Pattern → Bool
  | [] => false
  | p :: ps => p.matchesEmpty || someMatchesEmpty ps
end

mutual
/-- How deep the parts of the pattern lie inside each other. -/
def depth : Pattern → Nat
  | blank | setting | condition _ => 0
  | character isClass => if isClass then 1 else 0
  | group body => body.depth + 1
  | repetition _ _ body => body.depth + 1
  | sequence parts => greatestDepth parts + 1
  | choice parts => greatestDepth parts + 1

def greatestDepth : List Pattern → Nat
  | [] => 0
  | p :: ps => max p.depth (greatestDepth ps)
end

mutual
/-- The number of steps of the pattern when all its repetitions are written out: one for each
character and condition, one for each choice, and two for the bounds of a group. -/
def steps : Pattern → Nat
  | blank | setting => 0
  | condition _ => 1
  | character _ => 1
  | group body => body.steps + 2
  | repetition least none body => max least 1 * body.steps + 1
  | repetition least (some most) body => most * body.steps + (most - least)
  | sequence parts => sumOfSteps parts
  | choice parts => sumOfSteps parts + 1

def sumOfSteps : List Pattern → Nat
  | [] => 0
  | p :: ps => p.steps + sumOfSteps ps
end

/-- The greatest depth of a pattern that is accepted. -/
def maxDepth : Nat := 250

/-- The greatest number of steps of a pattern that is accepted. -/
def maxSteps : Nat := 327670

/-! ### Settings -/

/-- The settings that change which texts are patterns: blanks are ignored, and characters outside
ASCII are known. -/
structure Settings where
  spaced : Bool
  unicode : Bool

/-- The blanks and comments at the start of a text are dropped where blanks are ignored. -/
def skipBlanks (s : Settings) (t : Text) : Text :=
  if s.spaced then go false t else t
where
  go (comment : Bool) : Text → Text
    | [] => []
    | c :: rest =>
      if comment then go (c != '\n') rest
      else if c = '#' then go true rest
      else if Text.isBlank c then go false rest
      else c :: rest

/-- The settings after some letters; a setting must not be given twice, and a minus sign must stand
once at most and before a letter. -/
def readSettings (seen : Text) (negative : Bool) (s : Settings) : Text → Option (Settings × Text)
  | [] => none
  | c :: rest =>
    if c = ')' ∨ c = ':' then
      if seen.head? = some '-' then none else some (s, c :: rest)
    else if c ∈ seen then none
    else if c = '-' then readSettings ('-' :: seen) true s rest
    else if c = 'x' then readSettings (c :: seen) negative { s with spaced := !negative } rest
    else if c = 'u' then readSettings (c :: seen) negative { s with unicode := !negative } rest
    else if c ∈ ['i', 'm', 's', 'U', 'R'] then readSettings (c :: seen) negative s rest
    else none

/-! ### Escapes -/

/-- Characters that have a meaning of their own somewhere in a pattern. -/
def isMeta (c : Char) : Bool :=
  c ∈ ['\\', '.', '+', '*', '?', '(', ')', '|', '[', ']', '\x7b', '\x7d', '^', '$', '#', '&', '-',
    '~']

/-- ASCII characters that stand for themselves after a backslash. -/
def isEscapable (c : Char) : Bool :=
  isMeta c || (c.toNat < 0x80 && !c.isAlphanum && c != '<' && c != '>')

/-- What an escape stands for. -/
inductive Escape
  /-- A character. -/
  | literal (c : Char)
  /-- A class; `wide`: it has characters outside ASCII even where these are not known. -/
  | set (wide : Bool)
  | place (holds : Bool)

/-- Digits in base sixteen in braces. -/
def readBracedHex (s : Settings) : Nat → Text → Text → Option (Char × Text)
  | 0, _, _ => none
  | fuel + 1, digits, t =>
    match skipBlanks s t with
    | [] => none
    | '\x7d' :: rest =>
      match Text.hexValue? digits.reverse with
      | some n =>
        if digits ≠ [] ∧ n.isValidChar then some (Char.ofNat n, rest) else none
      | none => none
    | c :: rest => readBracedHex s fuel (c :: digits) rest

/-- Exactly `count` digits in base sixteen, or any number of them in braces. -/
def readHex (s : Settings) (count : Nat) (t : Text) : Option (Char × Text) :=
  match skipBlanks s t with
  | '\x7b' :: rest => readBracedHex s (rest.length + 1) [] rest
  | t => do
    let n ← if t.length < count then none else Text.hexValue? (t.take count)
    if n.isValidChar then some (Char.ofNat n, t.drop count) else none

/-- The name of a property, one letter or any name in braces. -/
def readProperty (s : Settings) (t : Text) : Option (Escape × Text) :=
  if !s.unicode then none
  else
    match skipBlanks s t with
    | [] => none
    | '\x7b' :: rest =>
      let body := rest.takeWhile (· != '\x7d')
      match rest.drop body.length with
      | [] => none
      | _ :: rest =>
        let name := match body with
          | '^' :: name => name
          | name => name
        let known :=
          match Text.cut '=' name with
          | (_, none) =>
            match Text.cut ':' name with
            | (_, none) => Property.isKnown name
            | (p, some v) => Property.isKnownValue p v
          | (p, some v) =>
            Property.isKnownValue (if p.getLast? = some '!' then p.dropLast else p) v
        if known then some (.set false, rest) else none
    | c :: rest =>
      if Property.normal [c] ∈ Property.categories then some (.set false, rest) else none

/-- The words for places at the edges of words. -/
def wordPlaces : List (Text × Bool) :=
  [("start", false), ("end", false), ("start-half", true), ("end-half", true)]

/-- A place between words, which may be told in braces after the letter. -/
def readWordPlace (s : Settings) (t : Text) : Option (Escape × Text) :=
  let isLetter (c : Char) : Bool := c.isAlpha || c == '-'
  match t with
  | '\x7b' :: rest =>
    match skipBlanks s rest with
    | [] => none
    | c :: more =>
      if isLetter c then
        let word := (c :: more).takeWhile isLetter
        match (c :: more).drop word.length, wordPlaces.lookup word with
        | '\x7d' :: rest, some holds => some (.place holds, rest)
        | _, _ => none
      else some (.place false, t)
  | t => some (.place false, t)

/-- Reads an escape from behind its backslash. -/
def readEscape (s : Settings) : Text → Option (Escape × Text)
  | [] => none
  | c :: rest =>
    let hex (count : Nat) := (readHex s count rest).map fun (d, rest) => (Escape.literal d, rest)
    if c.isDigit then none
    else if c = 'x' then hex 2
    else if c = 'u' then hex 4
    else if c = 'U' then hex 8
    else if c = 'p' ∨ c = 'P' then readProperty s rest
    else if c = 'd' ∨ c = 's' ∨ c = 'w' then some (.set false, rest)
    else if c = 'D' ∨ c = 'S' ∨ c = 'W' then some (.set true, rest)
    else if isEscapable c then some (.literal c, rest)
    else if c ∈ ['a', 'f', 't', 'n', 'r', 'v'] then some (.literal '\n', rest)
    else if c = 'A' ∨ c = 'z' ∨ c = 'B' then some (.place true, rest)
    else if c = 'b' then readWordPlace s rest
    else if c = '<' ∨ c = '>' then some (.place false, rest)
    else none

/-! ### Classes in brackets -/

/-- The names of classes between colons. -/
def asciiClasses : List Text :=
  ["alnum", "alpha", "ascii", "blank", "cntrl", "digit", "graph", "lower", "print", "punct",
   "space", "upper", "word", "xdigit"]

/-- What follows a class between colons. -/
def afterAsciiClass? (t : Text) : Option Text := do
  let rest ← Text.after? "[:" t
  let rest := match rest with
    | '^' :: rest => rest
    | rest => rest
  let name := rest.takeWhile (· != ':')
  let rest ← Text.after? ":]" (rest.drop name.length)
  if name ∈ asciiClasses then some rest else none

/-- The opening of a class: the bracket is read; a caret, hyphens and one closing bracket may
follow. Tells whether the class is negated. -/
def openClass (s : Settings) (t : Text) : Option (Bool × Text) :=
  let t := skipBlanks s t
  let (negated, t) := match t with
    | '^' :: rest => (true, skipBlanks s rest)
    | t => (false, t)
  let hyphens := t.takeWhile (· == '-')
  let t := skipBlanks s (t.drop hyphens.length)
  match t with
  | [] => none
  | ']' :: rest => if hyphens = [] then some (negated, skipBlanks s rest) else some (negated, t)
  | t => some (negated, t)

/-- One item of a class: a character, or none for a class of its own. -/
def readItem (s : Settings) : Text → Option (Option Char × Text)
  | [] => none
  | '\\' :: rest =>
    match readEscape s rest with
    | some (.literal c, rest) => some (some c, rest)
    | some (.set wide, rest) => if wide && !s.unicode then none else some (none, rest)
    | _ => none
  | c :: rest => some (some c, rest)

/-- A character that may stand in a class. -/
def isAllowed (s : Settings) (c : Char) : Bool := s.unicode || c.toNat < 0x80

/-- Reads a class from behind its bracket to its end; `inner` is the number of classes that are open
around this one. -/
def readClass (s : Settings) (inner : Nat) : Nat → Text → Option Text
  | 0, _ => none
  | fuel + 1, t =>
    match skipBlanks s t with
    | [] => none
    | ']' :: rest => if inner = 0 then some rest else readClass s (inner - 1) fuel rest
    | '&' :: '&' :: rest => readClass s inner fuel rest
    | '-' :: '-' :: rest => readClass s inner fuel rest
    | '~' :: '~' :: rest => readClass s inner fuel rest
    | '[' :: rest =>
      match afterAsciiClass? ('[' :: rest) with
      | some rest => readClass s inner fuel rest
      | none =>
        match openClass s rest with
        | some (negated, rest) =>
          if negated && !s.unicode then none else readClass s (inner + 1) fuel rest
        | none => none
    | t =>
      match readItem s t with
      | none => none
      | some (low, rest) =>
        if low.any (!isAllowed s ·) then none
        else
          match skipBlanks s rest with
          | [] => none
          | '-' :: more =>
            match skipBlanks s more with
            | [] => none
            | ']' :: _ => readClass s inner fuel ('-' :: more)
            | '-' :: _ => readClass s inner fuel ('-' :: more)
            | t =>
              match low, readItem s t with
              | some low, some (some high, rest) =>
                if low ≤ high && isAllowed s high then readClass s inner fuel rest else none
              | _, _ => none
          | rest => readClass s inner fuel rest

/-! ### Repetitions -/

/-- A decimal number below `2 ^ 32` with blanks around it. -/
def readCount (t : Text) : Option Nat × Text :=
  let t := t.dropWhile Text.isBlank
  let digits := t.takeWhile Char.isDigit
  let rest := (t.drop digits.length).dropWhile Text.isBlank
  let n := Text.digitsValue digits
  (if digits ≠ [] ∧ n < 2 ^ 32 then some n else none, rest)

/-- Reads counts from behind the opening brace. -/
def readCounts (t : Text) : Option (Nat × Option Nat × Text) :=
  match readCount t with
  | (some least, '\x7d' :: rest) => some (least, some least, rest)
  | (some least, ',' :: rest) =>
    match rest with
    | '\x7d' :: rest => some (least, none, rest)
    | rest =>
      match readCount rest with
      | (some most, '\x7d' :: rest) => if least ≤ most then some (least, some most, rest) else none
      | _ => none
  | _ => none

/-- A sign of repetition at the start of a text, with a question mark after it or not. -/
def readRepetition (s : Settings) (t : Text) : Option (Nat × Option Nat × Text) := do
  let (least, most, rest) ←
    match t with
    | '*' :: rest => some (0, none, rest)
    | '+' :: rest => some (1, none, rest)
    | '?' :: rest => some (0, some 1, rest)
    | '\x7b' :: rest =>
      (readCounts rest).map fun (least, most, rest) => (least, most, skipBlanks s rest)
    | _ => none
  match rest with
  | '?' :: rest => return (least, most, rest)
  | rest => return (least, most, rest)

/-! ### Patterns -/

/-- The parts in order as one pattern. -/
def ofParts : List Pattern → Pattern
  | [] => blank
  | [p] => p
  | ps => sequence ps

/-- The name of a group, and the text after it. -/
def readName (t : Text) : Option (Text × Text) :=
  let name := t.takeWhile (· != '>')
  let isLater (c : Char) : Bool :=
    c == '_' || c == '.' || c == '[' || c == ']' || c.isAlphanum || 0x80 ≤ c.toNat
  match name, t.drop name.length with
  | c :: more, _ :: rest =>
    if (c == '_' || c.isAlpha || 0x80 ≤ c.toNat) && more.all isLater then some (name, rest)
    else none
  | _, _ => none

/-- What a group begins with. -/
inductive Opening
  /-- No group, but settings. -/
  | settings (s : Settings)
  | group (s : Settings) (name : Option Text)

/-- Reads the start of a group from behind its parenthesis. -/
def readOpening (s : Settings) (t : Text) : Option (Opening × Text) :=
  match t with
  | '?' :: '=' :: _ | '?' :: '!' :: _ | '?' :: '<' :: '=' :: _ | '?' :: '<' :: '!' :: _ => none
  | '?' :: 'P' :: '<' :: rest | '?' :: '<' :: rest =>
    (readName rest).map fun (name, rest) => (.group s (some name), rest)
  | '?' :: rest =>
    match readSettings [] false s rest with
    | some (_, ')' :: []) => if rest.head? = some ')' then none else some (.settings s, [])
    | some (s', ')' :: more) => if rest.head? = some ')' then none else some (.settings s', more)
    | some (s', _ :: more) => some (.group s' none, more)
    | _ => none
  | t => some (.group s none, t)

/-- What has been read of a group: the settings that hold now, the alternatives before, and the
parts of the present alternative, both in reverse. -/
structure Draft where
  settings : Settings
  before : List Pattern
  parts : List Pattern

namespace Draft

/-- The present alternative is complete. -/
def alternative (d : Draft) : Pattern := ofParts d.parts.reverse

/-- The pattern of a group that has been read. -/
def pattern (d : Draft) : Pattern :=
  match d.before with
  | [] => d.alternative
  | before => choice (before.reverse ++ [d.alternative])

/-- A further part. -/
def add (p : Pattern) (d : Draft) : Draft := { d with parts := p :: d.parts }

end Draft

/-- Reads the rest of a pattern inside groups that are open; `names` are those of the groups so
far. -/
def readFrom (names : List Text) (outer : List Draft) (d : Draft) : Nat → Text → Option Pattern
  | 0, _ => none
  | fuel + 1, t =>
    match skipBlanks d.settings t with
    | [] => if outer.isEmpty then some d.pattern else none
    | '|' :: rest =>
      readFrom names outer { d with before := d.alternative :: d.before, parts := [] } fuel rest
    | ')' :: rest =>
      match outer with
      | [] => none
      | o :: outer => readFrom names outer (o.add (.group d.pattern)) fuel rest
    | '(' :: rest =>
      match readOpening d.settings rest with
      | none => none
      | some (.settings s, rest) =>
        readFrom names outer { d.add .setting with settings := s } fuel rest
      | some (.group s none, rest) => readFrom names (d :: outer) ⟨s, [], []⟩ fuel rest
      | some (.group s (some name), rest) =>
        if name ∈ names then none
        else readFrom (name :: names) (d :: outer) ⟨s, [], []⟩ fuel rest
    | '[' :: rest =>
      match openClass d.settings rest with
      | none => none
      | some (negated, rest) =>
        if negated && !d.settings.unicode then none
        else
          match readClass d.settings 0 (rest.length + 1) rest with
          | some rest => readFrom names outer (d.add (.character true)) fuel rest
          | none => none
    | '\\' :: rest =>
      match readEscape d.settings rest with
      | none => none
      | some (.literal c, rest) =>
        if isAllowed d.settings c then readFrom names outer (d.add (.character false)) fuel rest
        else none
      | some (.set wide, rest) =>
        if wide && !d.settings.unicode then none
        else readFrom names outer (d.add (.character false)) fuel rest
      | some (.place holds, rest) => readFrom names outer (d.add (.condition holds)) fuel rest
    | '.' :: rest =>
      if d.settings.unicode then readFrom names outer (d.add (.character false)) fuel rest
      else none
    | '^' :: rest | '$' :: rest => readFrom names outer (d.add (.condition true)) fuel rest
    | c :: rest =>
      if c ∈ ['*', '+', '?', '\x7b'] then
        match readRepetition d.settings (c :: rest), d.parts with
        | none, _ | _, [] | _, .blank :: _ | _, .setting :: _ => none
        | some (least, most, rest), p :: parts =>
          readFrom names outer { d with parts := .repetition least most p :: parts } fuel rest
      else readFrom names outer (d.add (.character false)) fuel rest

/-- The pattern of a text, if it is one and neither too deep nor too long. -/
def read? (t : Text) : Option Pattern :=
  (readFrom [] [] ⟨⟨false, true⟩, [], []⟩ (t.length + 1) t).filter fun p =>
    p.depth ≤ maxDepth && p.steps ≤ maxSteps

/-! ### Braces that are no repetitions -/

/-- Cuts off what shows whether an opening brace begins counts: true with the text up to the closing
brace, false with the text up to the character that speaks against it. -/
def cutCounts (first comma : Bool) : Text → Bool × Text × Text
  | [] => (false, [], [])
  | c :: rest =>
    if c = ',' then
      if first || comma then (false, [c], rest)
      else
        let (found, taken, rest) := cutCounts false true rest
        (found, c :: taken, rest)
    else if c = '\x7d' then (!first, [c], rest)
    else if c.isDigit then
      let (found, taken, rest) := cutCounts false comma rest
      (found, c :: taken, rest)
    else (false, [c], rest)

theorem cutCounts_length (first comma : Bool) (t : Text) :
    (cutCounts first comma t).2.2.length ≤ t.length := by
  fun_induction cutCounts first comma t <;> simp_all <;> omega

/-- A text in which a backslash stands before every brace that does not begin counts. What has been
looked at after a brace is copied. -/
def escapeBraces : Text → Text
  | [] => []
  | '\\' :: [] => []
  | '\\' :: c :: rest => '\\' :: c :: escapeBraces rest
  | '\x7b' :: rest =>
    let found := cutCounts true false rest
    (if found.1 then "\x7b" else "\\\x7b") ++ found.2.1 ++ escapeBraces found.2.2
  | c :: rest => c :: escapeBraces rest
termination_by t => t.length
decreasing_by
  · simp only [List.length_cons]; omega
  · have := cutCounts_length true false rest
    simp only [List.length_cons]
    omega
  · simp

/-- The pattern of a label value: braces that do not begin counts may stand for themselves. -/
def ofValue? (t : Text) : Option Pattern :=
  match read? t with
  | some p => some p
  | none => read? (escapeBraces t)

end Pattern

end RuleAudit.Query
