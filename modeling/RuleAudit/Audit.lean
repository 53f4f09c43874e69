import RuleAudit.Checker
import RuleAudit.Query.Meaning

/-!
The audit of a list of queries: every metric of every query is checked, in order. What becomes of a
query is its outcome; the events that are told, the findings, the diagnostics and the counters all
follow from the outcomes.
-/

namespace RuleAudit

/-! ### Outcomes -/

/-- What becomes of a query. -/
inductive Outcome
  /-- The text is no query. -/
  | unreadable (e : Error)
  /-- Every metric has been checked, or the check has failed. -/
  | checked (metrics : List (Text × Except Error Bool))

namespace Outcome

/-- The event of a checked metric: none if it exists. -/
def eventOf (q : RuleQuery) (metric : Text) : Except Error Bool → Option Event
  | .ok true => none
  | .ok false => some (.finding (.of q metric))
  | .error e => some (.diagnostic (.of q e))

/-- The events of an outcome, in order. -/
def events (q : RuleQuery) : Outcome → List Event
  | unreadable e => [.diagnostic (.of q e)]
  | checked ms => ms.filterMap fun (metric, r) => eventOf q metric r

/-- The number of metrics that have been checked. -/
def metricCount : Outcome → Nat
  | unreadable _ => 0
  | checked ms => ms.length

/-- All metrics have a verdict. -/
def isComplete : Outcome → Bool
  | unreadable _ => false
  | checked ms => ms.all fun (_, r) => r.isOk

end Outcome

/-! ### Results -/

namespace Event

/-- The finding of an event that is one. -/
def finding? : Event → Option Finding
  | finding f => some f
  | diagnostic _ => none

/-- The diagnostic of an event that is one. -/
def diagnostic? : Event → Option Diagnostic
  | finding _ => none
  | diagnostic d => some d

@[simp] theorem finding?_eq_some {e : Event} {f : Finding} :
    e.finding? = some f ↔ e = .finding f := by
  cases e <;> simp [finding?]

@[simp] theorem diagnostic?_eq_some {e : Event} {d : Diagnostic} :
    e.diagnostic? = some d ↔ e = .diagnostic d := by
  cases e <;> simp [diagnostic?]

end Event

/-- Queries with their outcomes, in the order of the audit. -/
abbrev Outcomes := List (RuleQuery × Outcome)

namespace Outcomes

/-- All events, in order. -/
def events (os : Outcomes) : List Event := os.flatMap fun (q, o) => o.events q

/-- What the outcomes come to. -/
def results (os : Outcomes) (lookups hits : Nat) : Results where
  counters :=
    { rulesListed := os.length
      rulesValidated := (os.filter (·.2.isComplete)).length
      metricsChecked := (os.map (·.2.metricCount)).sum
      backendCalls := lookups
      cacheHits := hits }
  findings := os.events.filterMap Event.finding?
  diagnostics := os.events.filterMap Event.diagnostic?

end Outcomes

/-! ### The audit -/

namespace Audit

section Run

variable {m : Type → Type} [Monad m] (s : Surroundings m)

/-- Checks the metrics of a query, and tells the event of each before the next. -/
def checkMetrics (q : RuleQuery) :
    List Text → Checker → m (List (Text × Except Error Bool) × Checker)
  | [], c => return ([], c)
  | metric :: rest, c => do
    let (r, c) ← c.check s metric
    (Outcome.eventOf q metric r).forM s.tell
    let (rs, c) ← checkMetrics q rest c
    return ((metric, r) :: rs, c)

/-- Audits one query. -/
def auditQuery (q : RuleQuery) (c : Checker) : m (Outcome × Checker) :=
  match Query.parse q.query with
  | .error message => do
    let e : Error := .parse q.query message
    s.tell (.diagnostic (.of q e))
    return (.unreadable e, c)
  | .ok e => do
    let (ms, c) ← checkMetrics s q e.metrics c
    return (.checked ms, c)

/-- Audits queries in order. -/
def auditQueries : List RuleQuery → Checker → m (Outcomes × Checker)
  | [], c => return ([], c)
  | q :: rest, c => do
    let (o, c) ← auditQuery s q c
    let (os, c) ← auditQueries rest c
    return ((q, o) :: os, c)

/-- The note about the results of an audit. -/
def summary (r : Results) : LogRecord :=
  .audited r.counters.rulesValidated r.counters.rulesListed r.findings.length
    r.diagnostics.length r.counters.backendCalls

/-- Audits queries, and gives the results with the work that this audit has been. -/
def auditAll (qs : List RuleQuery) (c : Checker) : m (Results × Checker) := do
  let (os, after) ← auditQueries s qs c
  let results := Outcomes.results os (after.lookups - c.lookups) (after.hits - c.hits)
  s.note (summary results)
  return (results, after)

/-- Audits the queries of a source. If they cannot be had, nothing happens. -/
def run (source : m (Except Error (List RuleQuery))) (c : Checker) :
    m (Except Error Results × Checker) := do
  match ← source with
  | .error e => return (.error e, c)
  | .ok qs =>
    let (results, c) ← auditAll s qs c
    return (.ok results, c)

end Run

end Audit

end RuleAudit
