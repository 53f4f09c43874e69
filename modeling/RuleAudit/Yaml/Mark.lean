import RuleAudit.Text.Basic

/-!
Places in a YAML text, and the classes of its characters. Line breaks are made alike before anything
else is read, so that only three characters break a line.
-/

namespace RuleAudit.Yaml

/-! ### Places -/

/-- A place: the line, and the number of characters before it on the line. -/
structure Mark where
  line : Nat
  column : Nat
deriving DecidableEq, Repr

namespace Mark

/-- The start of a text. -/
def start : Mark := ⟨0, 0⟩

/-- The place some characters further on the same line. -/
def ahead (m : Mark) (n : Nat) : Mark := { m with column := m.column + n }

/-- The place behind one character. -/
def next (m : Mark) : Mark := m.ahead 1

/-- The start of the next line. -/
def nextLine (m : Mark) : Mark := ⟨m.line + 1, 0⟩

end Mark

/-- A text with the place at which it begins. -/
structure Cursor where
  mark : Mark
  rest : Text

namespace Cursor

/-- Passes over some characters that do not break the line. -/
def ahead (c : Cursor) (n : Nat) : Cursor := ⟨c.mark.ahead n, c.rest.drop n⟩

/-- Passes over the first characters that satisfy `p`, none of which breaks the line. -/
def skip (p : Char → Bool) (c : Cursor) : Cursor := c.ahead (c.rest.takeWhile p).length

end Cursor

/-! ### Characters -/

/-- A character that may stand in a YAML text. -/
def isAllowed (c : Char) : Bool :=
  let n := c.toNat
  n == 0x9 || n == 0xA || n == 0xD || (0x20 ≤ n && n ≤ 0x7E) || n == 0x85
    || (0xA0 ≤ n && n ≤ 0xD7FF) || (0xE000 ≤ n && n ≤ 0xFFFD) || 0x10000 ≤ n

/-- The text with a line feed for each carriage return, pair of carriage return and line feed, and
next-line character. -/
def unifyBreaks : Text → Text
  | '\r' :: '\n' :: rest => '\n' :: unifyBreaks rest
  | '\r' :: rest => '\n' :: unifyBreaks rest
  | '\u0085' :: rest => '\n' :: unifyBreaks rest
  | c :: rest => c :: unifyBreaks rest
  | [] => []

/-- A character that breaks a line. -/
def isBreak (c : Char) : Bool := c == '\n' || c == '\u2028' || c == '\u2029'

/-- A space or a tab. -/
def isBlank (c : Char) : Bool := c == ' ' || c == '\t'

/-- A character of a name. -/
def isWord (c : Char) : Bool := c.isAlphanum || c == '_' || c == '-'

/-- A character of an address, besides the percent sign and, in brackets only, the last three. -/
def isAddress (bracketed : Bool) (c : Char) : Bool :=
  isWord c || c ∈ [';', '/', '?', ':', '@', '&', '=', '+', '$', '.', '!', '~', '*', '\x27', '(',
    ')'] || (bracketed && c ∈ [',', '[', ']'])

/-- A mark that ends a plain scalar inside brackets or braces. -/
def isFlowMark (c : Char) : Bool := c ∈ [',', '[', ']', '\x7b', '\x7d']

/-- A blank or a line break comes next, or nothing. -/
def atGap (t : Text) : Bool := t.head?.all fun c => isBlank c || isBreak c

/-- The three marks that begin a document, or those that end one. -/
def isDocumentMark (mark : Char) (c : Cursor) : Bool :=
  c.mark.column == 0 && c.rest.take 3 == [mark, mark, mark] && atGap (c.rest.drop 3)

/-- One of the marks between documents. -/
def isAnyDocumentMark (c : Cursor) : Bool := isDocumentMark '-' c || isDocumentMark '.' c

end RuleAudit.Yaml
