import RuleAudit.Backend
import RuleAudit.Log
import RuleAudit.Lookup
import RuleAudit.Report
import RuleAudit.Verdicts

/-!
Whether a metric exists, with what has been found out before. A metric is asked for until the server
has answered once; a failure is no answer.
-/

namespace RuleAudit

/-- What an audit needs from outside: the server, the time, a log, and somebody to tell its events
to. -/
structure Surroundings (m : Type → Type) where
  backend : Backend m
  now : m Instant
  note : LogRecord → m Unit
  tell : Event → m Unit

/-- What is known about metrics, how often the server has been asked, and how often that was not
needed. -/
structure Checker where
  verdicts : Verdicts
  lookups : Nat
  hits : Nat

namespace Checker

/-- A checker that has done nothing yet. -/
def ofVerdicts (v : Verdicts) : Checker := ⟨v, 0, 0⟩

/-- The checker after it has been asked for a metric that it knows. -/
def hit (c : Checker) : Checker := { c with hits := c.hits + 1 }

/-- The checker after it has asked the server. -/
def asked (c : Checker) : Checker := { c with lookups := c.lookups + 1 }

/-- The checker after the server has said whether a metric exists. -/
def learned (c : Checker) (metric : Text) (found : Bool) : Checker :=
  { c.asked with verdicts := c.verdicts.put metric found }

section Run

variable {m : Type → Type} [Monad m] (s : Surroundings m)

/-- Asks the server for the series of a metric up to now. -/
def lookUp (metric : Text) : m (Except Error (List Series)) := do
  s.backend.series (Lookup.selector metric) (.lifetimeUntil (← s.now))

/-- Whether a metric exists: it does if it has a series. -/
def check (metric : Text) (c : Checker) : m (Except Error Bool × Checker) :=
  match c.verdicts.get? metric with
  | some found => do
    s.note (.known metric found)
    return (.ok found, c.hit)
  | none => do
    match ← lookUp s metric with
    | .error e => return (.error (.metricLookup metric e), c.asked)
    | .ok series =>
      s.note (.matched metric series.length)
      return (.ok (!series.isEmpty), c.learned metric (!series.isEmpty))

end Run

end Checker

end RuleAudit
