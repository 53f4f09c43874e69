import RuleAudit.Text.Basic

/-!
The functions of the query language: their arguments and their results.
-/

namespace RuleAudit.Query

/-- What kind of value an expression has. -/
inductive ValueType
  | scalar
  | vector
  | matrix
  | string
deriving DecidableEq, Repr

/-- The word for a kind of value. -/
def ValueType.word : ValueType → Text
  | scalar => "scalar"
  | vector => "vector"
  | matrix => "matrix"
  | string => "string"

/-- How many arguments a function takes. -/
inductive Arity
  /-- One for every argument type. -/
  | exact
  /-- The last may be left out. -/
  | optional
  /-- The last may be left out or repeated. -/
  | repeated
deriving DecidableEq, Repr

/-- A function with the types of its arguments and of its result. -/
structure Function where
  name : Text
  args : List ValueType
  arity : Arity
  result : ValueType
deriving DecidableEq, Repr

namespace Function

/-- Functions of one argument and with a vector as their result. -/
def unary (arg : ValueType) (arity : Arity) (names : List Text) : List Function :=
  (Text.words names).map fun name => ⟨name, [arg], arity, .vector⟩

/-- All functions. -/
def all : List Function :=
  unary .vector .exact
    ["abs absent acos acosh asin asinh atan atanh ceil cos cosh deg exp floor histogram_count",
     "histogram_sum ln log10 log2 rad sgn sin sinh sort sort_desc sqrt tan tanh timestamp"]
  ++ unary .vector .optional
    ["days_in_month day_of_month day_of_week day_of_year hour minute month year"]
  ++ unary .matrix .exact
    ["absent_over_time avg_over_time changes count_over_time delta deriv idelta increase irate",
     "last_over_time max_over_time min_over_time present_over_time rate resets stddev_over_time",
     "stdvar_over_time sum_over_time"]
  ++ [⟨"scalar", [.vector], .exact, .scalar⟩,
      ⟨"clamp", [.vector, .scalar, .scalar], .exact, .vector⟩,
      ⟨"clamp_max", [.vector, .scalar], .exact, .vector⟩,
      ⟨"clamp_min", [.vector, .scalar], .exact, .vector⟩,
      ⟨"histogram_fraction", [.scalar, .scalar, .vector], .exact, .vector⟩,
      ⟨"histogram_quantile", [.scalar, .vector], .exact, .vector⟩,
      ⟨"holt_winters", [.matrix, .scalar, .scalar], .exact, .vector⟩,
      ⟨"label_replace", [.vector, .string, .string, .string, .string], .exact, .vector⟩,
      ⟨"label_join", [.vector, .string, .string, .string], .repeated, .vector⟩,
      ⟨"predict_linear", [.matrix, .scalar], .exact, .vector⟩,
      ⟨"quantile_over_time", [.scalar, .matrix], .exact, .vector⟩,
      ⟨"round", [.vector, .scalar], .optional, .vector⟩,
      ⟨"vector", [.scalar], .exact, .vector⟩,
      ⟨"pi", [], .exact, .scalar⟩,
      ⟨"time", [], .exact, .scalar⟩]

/-- The function with a name, which must be spelt exactly. -/
def ofName? (name : Text) : Option Function := all.find? (·.name == name)

/-- The message about a call with a wrong number of arguments. -/
def countFault? (f : Function) (count : Nat) : Option Text :=
  let expected := f.args.length
  let fault (bound : Text) (n : Nat) : Option Text :=
    some ("expected " ++ bound ++ Text.decimal n ++ " argument(s) in call to '" ++ f.name
      ++ "', got " ++ Text.decimal count)
  match f.arity with
  | .exact => if count = expected then none else fault [] expected
  | .optional =>
    if count < expected - 1 then fault "at least " (expected - 1)
    else if expected < count then fault "at most " expected
    else none
  | .repeated => if count < expected - 1 then fault "at least " (expected - 1) else none

/-- The type of the argument at a place; the last type counts for all later places. -/
def argType (f : Function) (place : Nat) : Option ValueType :=
  match f.args[place]? with
  | some t => some t
  | none => f.args.getLast?

end Function

end RuleAudit.Query
