import RuleAudit.Text.Basic

/-!
The words and marks of the query language.
-/

namespace RuleAudit.Query

/-! ### Operators and keywords -/

/-- The operators that make one series out of many. -/
inductive Aggregator
  | sum
  | avg
  | count
  | min
  | max
  | group
  | stddev
  | stdvar
  | topk
  | bottomk
  | countValues
  | quantile
deriving DecidableEq, Repr

/-- The words of the aggregators. -/
def Aggregator.word : Aggregator → Text
  | sum => "sum"
  | avg => "avg"
  | count => "count"
  | min => "min"
  | max => "max"
  | group => "group"
  | stddev => "stddev"
  | stdvar => "stdvar"
  | topk => "topk"
  | bottomk => "bottomk"
  | countValues => "count_values"
  | quantile => "quantile"

/-- The operators between two expressions. -/
inductive BinaryOp
  | add
  | sub
  | mul
  | div
  | mod
  | pow
  | atan2
  | equal
  | notEqual
  | less
  | lessEqual
  | greater
  | greaterEqual
  | inter
  | union
  | diff
deriving DecidableEq, Repr

namespace BinaryOp

/-- The operators that compare. -/
def isComparison : BinaryOp → Bool
  | equal | notEqual | less | lessEqual | greater | greaterEqual => true
  | _ => false

/-- The operators on sets of series. -/
def isSetOperator : BinaryOp → Bool
  | inter | union | diff => true
  | _ => false

/-- The words of the operators on sets. -/
def word : BinaryOp → Text
  | inter => "and"
  | union => "or"
  | diff => "unless"
  | atan2 => "atan2"
  | _ => []

/-- How strongly an operator binds its sides. -/
def strength : BinaryOp → Nat
  | union => 1
  | inter | diff => 2
  | equal | notEqual | less | lessEqual | greater | greaterEqual => 3
  | add | sub => 4
  | mul | div | mod | atan2 => 5
  | pow => 6

/-- The least strength of an operator inside the right side. All operators but the power take
their left neighbours together first. -/
def rightStrength : BinaryOp → Nat
  | pow => 6
  | op => op.strength + 1

end BinaryOp

/-- Words with a meaning of their own. -/
inductive Keyword
  | operator (op : BinaryOp)
  | aggregator (op : Aggregator)
  | offset
  | groupBy
  | groupWithout
  | matchOn
  | matchIgnoring
  | groupLeft
  | groupRight
  | bool
  | rangeStart
  | rangeEnd
deriving DecidableEq, Repr

/-- All aggregators. -/
def Aggregator.all : List Aggregator :=
  [.sum, .avg, .count, .min, .max, .group, .stddev, .stdvar, .topk, .bottomk, .countValues,
   .quantile]

/-- The keywords that are no aggregators, by their spelling in lower case. -/
def Keyword.table : List (Text × Keyword) :=
  [("and", .operator .inter), ("or", .operator .union), ("unless", .operator .diff),
   ("atan2", .operator .atan2), ("offset", .offset), ("by", .groupBy), ("without", .groupWithout),
   ("on", .matchOn), ("ignoring", .matchIgnoring), ("group_left", .groupLeft),
   ("group_right", .groupRight), ("bool", .bool), ("start", .rangeStart), ("end", .rangeEnd)]

/-- The keyword that a word spells, in any case. -/
def Keyword.ofWord? (t : Text) : Option Keyword :=
  match Aggregator.all.find? (·.word == Text.lower t) with
  | some op => some (.aggregator op)
  | none => Keyword.table.lookup (Text.lower t)

/-- Words that are numbers. -/
def isNumberWord (t : Text) : Bool :=
  Text.lower t == ("inf" : Text) || Text.lower t == ("nan" : Text)

/-- The ways in which a matcher compares a label with its value. -/
inductive MatchOp
  | equal
  | notEqual
  | pattern
  | notPattern
deriving DecidableEq, Repr

/-- The mark of a way to match. -/
def MatchOp.mark : MatchOp → Text
  | equal => "="
  | notEqual => "!="
  | pattern => "=~"
  | notPattern => "!~"

/-! ### Tokens -/

/-- A token. Words, numbers, durations and strings carry their text, strings without the quotes and
with their escapes as they stand. -/
inductive Token
  | stop
  | comma
  | at
  | colon
  | leftParen
  | rightParen
  | leftBrace
  | rightBrace
  | leftBracket
  | rightBracket
  /-- An operator that is spelt with marks. Inside braces, only the one for inequality occurs. -/
  | operator (op : BinaryOp)
  /-- One of the ways to match, but for inequality. -/
  | matching (op : MatchOp)
  | number (text : Text)
  | duration (text : Text)
  | string (text : Text)
  | name (text : Text)
  /-- A name with a colon, which only a metric can have. -/
  | colonName (text : Text)
  | keyword (word : Keyword) (text : Text)
deriving DecidableEq, Repr

/-! ### Characters -/

/-- A character of white space. -/
def isSpace (c : Char) : Bool :=
  c == ' ' || c == '\t' || c == '\n' || c == '\x0C' || c == '\r'

/-- A character that may begin a name: a letter or an underscore. -/
def isNameStart (c : Char) : Bool := c == '_' || c.isAlpha

/-- A character that may stand in a label. -/
def isLabelChar (c : Char) : Bool := isNameStart c || c.isDigit

/-- A character that may stand in the name of a metric. -/
def isMetricChar (c : Char) : Bool := isLabelChar c || c == ':'

/-- The end of a line. -/
def isLineEnd (c : Char) : Bool := c == '\n' || c == '\r'

end RuleAudit.Query
