import RuleAudit.Query.Function
import RuleAudit.Query.Phrase
import RuleAudit.Query.Pattern
import RuleAudit.Query.Literal

/-!
Expressions: queries that mean something, with the selectors in them.
-/

namespace RuleAudit.Query

/-- A matcher of one label. -/
structure Matcher where
  label : Text
  op : MatchOp
  value : Text
deriving DecidableEq, Repr

/-- A time that an expression is moved to. -/
inductive AtTime
  | instant (negative : Bool) (seconds : Binary64)
  | rangeStart
  | rangeEnd
deriving DecidableEq, Repr

/-- How an expression is moved in time: by milliseconds, or to a time. -/
structure Placement where
  offset : Option Int
  time : Option AtTime
deriving DecidableEq, Repr

/-- Not moved at all. -/
def Placement.unmoved : Placement := ⟨none, none⟩

/-- A selector of series: a name, matchers, and its place in time. -/
structure Selector where
  name : Option Text
  matchers : List Matcher
  placement : Placement
deriving DecidableEq, Repr

/-- The name by which a selector asks for a metric, if it has one. -/
def Selector.metric? (s : Selector) : Option Text := s.name.filter (· ≠ [])

/-- An expression. -/
inductive Expr
  | aggregate (op : Aggregator) (grouping : Option Grouping) (parameter : Option Expr)
      (body : Expr)
  | negate (body : Expr)
  | binary (op : BinaryOp) (bool : Bool) (matching : Option (Matching × Option ManySide))
      (left right : Expr)
  | paren (body : Expr)
  | subquery (body : Expr) (range : Nat) (step : Option Nat) (placement : Placement)
  | number (value : Binary64)
  | string (text : Text)
  | vector (selector : Selector)
  | matrix (selector : Selector) (range : Nat)
  | call (function : Function) (args : List Expr)

namespace Expr

/-- The kind of value of an expression. -/
def type : Expr → ValueType
  | aggregate .. => .vector
  | negate body => body.type
  | binary _ _ _ left right =>
    if left.type = .scalar ∧ right.type = .scalar then .scalar else .vector
  | paren body => body.type
  | subquery .. => .matrix
  | number _ => .scalar
  | string _ => .string
  | vector _ => .vector
  | matrix _ _ => .matrix
  | call f _ => f.result

/-! ### Names -/

/-- The metric that an expression selects by itself. -/
def metric? : Expr → Option Text
  | vector s => s.metric?
  | matrix s _ => s.metric?
  | _ => none

mutual
/-- The metrics of the selectors in an expression, from left to right. The parameter of an
aggregation is not looked into. -/
def selected : Expr → List Text
  | aggregate _ _ _ body => body.selected
  | negate body => body.selected
  | binary _ _ _ left right => left.selected ++ right.selected
  | paren body => body.selected
  | subquery body _ _ _ => body.selected
  | number _ => []
  | string _ => []
  | vector s => s.metric?.toList
  | matrix s _ => s.metric?.toList
  | call _ args => selectedAll args

def selectedAll : List Expr → List Text
  | [] => []
  | e :: es => e.selected ++ selectedAll es
end

/-- The distinct metrics of an expression, in the order of their names. -/
def metrics (e : Expr) : List Text := Text.sortedSet e.selected

end Expr

end RuleAudit.Query
