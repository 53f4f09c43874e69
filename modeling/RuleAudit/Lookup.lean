import RuleAudit.Instant

/-!
What is asked of the server about a metric: the selector of all series with its name, and the
parameters of the request.
-/

namespace RuleAudit.Lookup

/-- A character inside a double-quoted string of a selector. -/
def escapeChar (c : Char) : Text :=
  if c = '\\' then "\\\\" else if c = '"' then "\\\"" else if c = '\n' then "\\n" else [c]

/-- The selector of the series whose name is the metric. -/
def selector (metric : Text) : Text :=
  "\x7b__name__=\"" ++ metric.flatMap escapeChar ++ "\"\x7d"

/-- One series is enough to know that there are some. -/
def limit : Nat := 1

/-- The parameters of a request for series, in order. -/
def parameters (selector : Text) (range : TimeRange) : List (Text × Text) :=
  [("match[]", selector), ("start", range.start.render), ("end", range.stop.render),
   ("limit", Text.decimal limit)]

end RuleAudit.Lookup
