import RuleAudit.Yaml.Scalar
import RuleAudit.Yaml.Token

/-!
Cutting a YAML text into tokens. Blocks begin and end with the columns of their contents, and a key
is known for one only by the colon behind it, so the tokens that begin a mapping are put in
afterwards, where the key began.
-/

namespace RuleAudit.Yaml

/-! ### The state of the reading -/

/-- Something that will turn out to be a key if a colon follows on the same line. -/
structure PossibleKey where
  /-- Nothing but a key may stand here. -/
  isRequired : Bool
  /-- The number of tokens before it. -/
  before : Nat
  mark : Mark
deriving DecidableEq, Repr

/-- How far a text has been read. -/
structure Lexer where
  cursor : Cursor
  /-- The tokens so far. -/
  tokens : Array Token
  /-- The first column of contents of the innermost block, plus one; `0` outside of all blocks. -/
  least : Nat
  /-- The same for the blocks around it. -/
  outerLeast : List Nat
  /-- A key may begin here without a mark. -/
  keyAllowed : Bool
  possibleKey : Option PossibleKey
  /-- The possible keys before the brackets that are open. -/
  outerKeys : List (Option PossibleKey)
  /-- The names of anchors, with their numbers. -/
  anchors : List (Text × Nat)

namespace Lexer

/-- The reading of a text begins. -/
def start (t : Text) : Lexer := ⟨⟨.start, t⟩, #[], 0, [], true, none, [], []⟩

/-- The reading is inside brackets or braces. -/
def inFlow (s : Lexer) : Bool := !s.outerKeys.isEmpty

/-! ### Tokens and blocks -/

/-- Adds a token. -/
def add (s : Lexer) (t : Token) : Lexer := { s with tokens := s.tokens.push t }

/-- Puts in a token that has some number of tokens before it. -/
def putIn (s : Lexer) (before : Nat) (t : Token) : Lexer :=
  { s with tokens := s.tokens.insertIdxIfInBounds before t }

/-- Begins a block at a column, unless the block around it has contents there, too. Inside brackets
there are no blocks. -/
def beginBlock (s : Lexer) (column before : Nat) (t : Token) : Lexer :=
  if s.inFlow ∨ column < s.least then s
  else { s.putIn before t with least := column + 1, outerLeast := s.least :: s.outerLeast }

/-- The blocks whose contents begin behind a column, as the number of them, and what is left. -/
def blocksBehind (least : Nat) : Nat → List Nat → Nat × Nat × List Nat
  | inner, [] => (0, inner, [])
  | inner, outer :: rest =>
    if least < inner then
      let (n, inner, rest) := blocksBehind least outer rest
      (n + 1, inner, rest)
    else (0, inner, outer :: rest)

/-- Ends the blocks whose contents begin at `least` or behind it. -/
def endBlocks (s : Lexer) (least : Nat) : Lexer :=
  if s.inFlow then s
  else
    let (n, inner, outer) := blocksBehind least s.least s.outerLeast
    { s with tokens := s.tokens ++ Array.replicate n .blockEnd, least := inner, outerLeast := outer }

/-! ### Possible keys -/

/-- The greatest distance of a colon from the start of its key. -/
def keyLimit : Nat := 1024

/-- A possible key that lies on an earlier line, or too far back, is none. It is a fault if nothing
else may stand there. -/
def refresh (m : Mark) : Option PossibleKey → Option (Option PossibleKey)
  | none => some none
  | some k =>
    if k.mark.line < m.line ∨ k.mark.column + keyLimit < m.column then
      if k.isRequired then none else some none
    else some (some k)

/-- Forgets what can be no key any more. -/
def refreshKeys (s : Lexer) : Option Lexer := do
  let key ← refresh s.cursor.mark s.possibleKey
  let outer ← s.outerKeys.mapM (refresh s.cursor.mark)
  return { s with possibleKey := key, outerKeys := outer }

/-- What has been read is no key. -/
def dropKey (s : Lexer) : Option Lexer :=
  if s.possibleKey.any (·.isRequired) then none else some { s with possibleKey := none }

/-- What is read next may be a key, if one may begin here. -/
def markKey (s : Lexer) : Option Lexer :=
  if s.keyAllowed then do
    let s ← s.dropKey
    let isRequired := !s.inFlow && s.least == s.cursor.mark.column + 1
    some { s with possibleKey := some ⟨isRequired, s.tokens.size, s.cursor.mark⟩ }
  else some s

/-! ### Between tokens -/

/-- Passes over blanks, comments and line breaks. A tab is a blank only where no key may begin, and
behind a line break outside brackets one may. A byte order mark may begin a line. -/
def passGap (flow : Bool) (keyAllowed inComment : Bool) (m : Mark) : Text → Bool × Cursor
  | [] => (keyAllowed, ⟨m, []⟩)
  | c :: rest =>
    let isBlankHere := c == ' ' || (c == '\t' && (flow || !keyAllowed))
    if isBreak c then passGap flow (keyAllowed || !flow) false m.nextLine rest
    else if inComment ∨ isBlankHere ∨ (c = '\uFEFF' ∧ m.column = 0) then
      passGap flow keyAllowed inComment m.next rest
    else if c = '#' then passGap flow keyAllowed true m.next rest
    else (keyAllowed, ⟨m, c :: rest⟩)

/-! ### Single tokens -/

/-- Passes over some characters of the line. -/
def ahead (s : Lexer) (n : Nat) : Lexer := { s with cursor := s.cursor.ahead n }

/-- Goes on with a rest of the line. -/
def onLine (s : Lexer) (rest : Text) : Lexer := s.ahead (s.cursor.rest.length - rest.length)

/-- The marks between documents end all blocks. -/
def leaveBlocks (s : Lexer) : Option Lexer := do
  let s ← (s.endBlocks 0).dropKey
  some { s with keyAllowed := false }

/-- A line with a directive. -/
def lexDirective (s : Lexer) : Option Lexer := do
  let s ← s.leaveBlocks
  let (t, rest) ← readDirective (s.cursor.rest.drop 1)
  let s := (s.onLine rest).add t
  let c ← passLineEnd s.cursor
  some { s with cursor := c }

/-- A mark between documents. -/
def lexDocument (s : Lexer) (t : Token) : Option Lexer := do
  let s ← s.leaveBlocks
  some ((s.ahead 3).add t)

/-- An opening bracket or brace. -/
def lexOpening (s : Lexer) (t : Token) : Option Lexer := do
  let s ← s.markKey
  some { (s.ahead 1).add t with
    keyAllowed := true, possibleKey := none, outerKeys := s.possibleKey :: s.outerKeys }

/-- A closing bracket or brace. -/
def lexClosing (s : Lexer) (t : Token) : Option Lexer := do
  let s ← s.dropKey
  let s := { (s.ahead 1).add t with keyAllowed := false }
  match s.outerKeys with
  | [] => some s
  | k :: rest => some { s with possibleKey := k, outerKeys := rest }

/-- A comma. -/
def lexComma (s : Lexer) : Option Lexer := do
  let s ← s.dropKey
  some { (s.ahead 1).add .comma with keyAllowed := true }

/-- The hyphen of a block sequence. -/
def lexEntry (s : Lexer) : Option Lexer := do
  if !s.inFlow ∧ !s.keyAllowed then none
  let s := s.beginBlock s.cursor.mark.column s.tokens.size .blockSequence
  let s ← s.dropKey
  some { (s.ahead 1).add .entry with keyAllowed := true }

/-- The question mark of a key. -/
def lexKey (s : Lexer) : Option Lexer := do
  if !s.inFlow ∧ !s.keyAllowed then none
  let s := s.beginBlock s.cursor.mark.column s.tokens.size .blockMapping
  let s ← s.dropKey
  some { (s.ahead 1).add .key with keyAllowed := !s.inFlow }

/-- The colon of a value: what has been read may turn out to be its key. -/
def lexValue (s : Lexer) : Option Lexer :=
  match s.possibleKey with
  | some k =>
    let s := (s.putIn k.before .key).beginBlock k.mark.column k.before .blockMapping
    some { (s.ahead 1).add .value with possibleKey := none, keyAllowed := false }
  | none => do
    if !s.inFlow ∧ !s.keyAllowed then none
    let s := s.beginBlock s.cursor.mark.column s.tokens.size .blockMapping
    some { (s.ahead 1).add .value with keyAllowed := !s.inFlow }

/-- An anchor. Its number is the number of names before it. -/
def lexAnchor (s : Lexer) : Option Lexer := do
  let s ← s.markKey
  let (name, rest) ← readName (s.cursor.rest.drop 1)
  let id := s.anchors.length
  some { (s.onLine rest).add (.anchor id) with
    keyAllowed := false, anchors := (name, id) :: s.anchors.filter (·.1 != name) }

/-- An alias. Its anchor must have come before. -/
def lexAlias (s : Lexer) : Option Lexer := do
  let s ← s.markKey
  let (name, rest) ← readName (s.cursor.rest.drop 1)
  let id ← s.anchors.lookup name
  some { (s.onLine rest).add (.alias id) with keyAllowed := false }

/-- A tag. -/
def lexTag (s : Lexer) : Option Lexer := do
  let s ← s.markKey
  let (handle, suffix, rest) ← readTag s.inFlow (s.cursor.rest.drop 1)
  some { (s.onLine rest).add (.tag handle suffix) with keyAllowed := false }

/-- A scalar set as a block. -/
def lexBlock (s : Lexer) (literal : Bool) : Option Lexer := do
  let s ← s.dropKey
  let (t, c) ← readBlock literal s.least (s.cursor.ahead 1)
  some { s.add (.scalar t false) with cursor := c, keyAllowed := true }

/-- A scalar between quotes. -/
def lexQuoted (s : Lexer) (double : Bool) : Option Lexer := do
  let s ← s.markKey
  let c := s.cursor.ahead 1
  let (t, c) ←
    if double then readDouble [] .none .none c.mark c.rest else readSingle [] .none c.mark c.rest
  some { s.add (.scalar t false) with cursor := c, keyAllowed := false }

/-- A scalar without marks around it. -/
def lexPlain (s : Lexer) : Option Lexer := do
  let s ← s.markKey
  let (t, broken, c) ← readPlain s.inFlow s.least [] .none s.cursor.mark s.cursor.rest
  some { s.add (.scalar t true) with cursor := c, keyAllowed := broken }

/-- A character that cannot begin a plain scalar by itself. -/
def isIndicator (c : Char) : Bool :=
  isFlowMark c || c ∈ ['-', '?', ':', '#', '&', '*', '!', '|', '>', '\x27', '"', '%', '@', '\x60']

/-- A plain scalar begins here. -/
def beginsPlain (flow : Bool) (c : Char) (rest : Text) : Bool :=
  !(isIndicator c || isBlank c)
    || (c == '-' && !rest.head?.any isBlank)
    || (!flow && (c == '?' || c == ':') && !atGap rest)

/-! ### The whole text -/

/-- Reads the token that begins here. -/
def lexToken (s : Lexer) (c : Char) (rest : Text) : Option Lexer :=
  if s.cursor.mark.column = 0 ∧ c = '%' then s.lexDirective
  else if isDocumentMark '-' s.cursor then s.lexDocument .documentStart
  else if isDocumentMark '.' s.cursor then s.lexDocument .documentEnd
  else if c = '[' then s.lexOpening .flowSequence
  else if c = '\x7b' then s.lexOpening .flowMapping
  else if c = ']' then s.lexClosing .flowSequenceEnd
  else if c = '\x7d' then s.lexClosing .flowMappingEnd
  else if c = ',' then s.lexComma
  else if c = '-' ∧ atGap rest then s.lexEntry
  else if c = '?' ∧ (s.inFlow ∨ atGap rest) then s.lexKey
  else if c = ':' ∧ (s.inFlow ∨ atGap rest) then s.lexValue
  else if c = '*' then s.lexAlias
  else if c = '&' then s.lexAnchor
  else if c = '!' then s.lexTag
  else if c = '|' ∧ !s.inFlow then s.lexBlock true
  else if c = '>' ∧ !s.inFlow then s.lexBlock false
  else if c = '\x27' then s.lexQuoted false
  else if c = '"' then s.lexQuoted true
  else if beginsPlain s.inFlow c rest then s.lexPlain
  else none

/-- The tokens of the rest. Every token takes a character, and so a step of `fuel`. -/
def run : Nat → Lexer → Option (List Token)
  | 0, _ => none
  | fuel + 1, s => do
    let (allowed, cursor) := passGap s.inFlow s.keyAllowed false s.cursor.mark s.cursor.rest
    let s ← { s with cursor, keyAllowed := allowed }.refreshKeys
    match cursor.rest with
    | [] =>
      let s ← (s.endBlocks 0).dropKey
      return s.tokens.toList
    | c :: rest => do
      let s ← (s.endBlocks (cursor.mark.column + 1)).lexToken c rest
      run fuel s

end Lexer

/-- The tokens of a text. -/
def tokens? (t : Text) : Option (List Token) :=
  let t := match t with
    | '\uFEFF' :: rest => rest
    | t => t
  if t.all isAllowed then Lexer.run (t.length + 1) (.start (unifyBreaks t)) else none

end RuleAudit.Yaml
