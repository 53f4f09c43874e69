import RuleAudit.Error
import RuleAudit.Instant
import RuleAudit.Listing

/-!
What an audit finds: metrics without series, and rules or metrics that could not be checked. Each is
written as a line, and all together as a report in JSON.
-/

namespace RuleAudit

open Json (Value textMember countMember)

/-! ### Findings -/

/-- A metric of a rule that has no series. -/
structure Finding where
  group : Text
  rule : Text
  query : Text
  metric : Text
deriving DecidableEq, Repr

namespace Finding

/-- The finding that a metric of a rule's query is missing. -/
def of (q : RuleQuery) (metric : Text) : Finding := ⟨q.group, q.rule, q.query, metric⟩

/-- The line about a finding. -/
def line (f : Finding) : Text :=
  "rule " ++ Text.quoted f.query ++ ": metric " ++ Text.quoted f.metric ++ " not found!"

def toJson (f : Finding) : Value :=
  .object [textMember "group" f.group, textMember "rule" f.rule, textMember "query" f.query,
    textMember "metric" f.metric]

end Finding

/-! ### Diagnostics -/

/-- What a report says about an error. -/
structure ErrorNote where
  code : Text
  message : Text
  metric : Option Text
deriving DecidableEq, Repr

namespace ErrorNote

def of (e : Error) : ErrorNote := ⟨e.code, e.message, e.metric?⟩

/-- The members of a note; the metric is there only if there is one. -/
def members (n : ErrorNote) : List (Text × Value) :=
  [textMember "code" n.code, textMember "message" n.message]
    ++ n.metric.toList.map (textMember "metric")

def toJson (n : ErrorNote) : Value := .object n.members

end ErrorNote

/-- An error that kept a rule, or one metric of it, from being checked. -/
structure Diagnostic where
  file : Text
  group : Text
  rule : Text
  kind : RuleKind
  query : Text
  note : ErrorNote
deriving DecidableEq, Repr

namespace Diagnostic

/-- The diagnostic of an error in checking a rule. -/
def of (q : RuleQuery) (e : Error) : Diagnostic :=
  ⟨q.file, q.group, q.rule, q.kind, q.query, ErrorNote.of e⟩

/-- The line about a diagnostic. -/
def line (d : Diagnostic) : Text :=
  d.note.message ++ " (" ++ d.kind.word ++ " rule " ++ Text.quoted d.rule ++ " in group "
    ++ Text.quoted d.group ++ ")"

/-- The members of the note stand beside those of the diagnostic; the file is there only if it has
a name. -/
def toJson (d : Diagnostic) : Value :=
  .object ((if d.file = [] then [] else [textMember "file" d.file])
    ++ [textMember "group" d.group, textMember "rule" d.rule, textMember "kind" d.kind.word,
        textMember "query" d.query]
    ++ d.note.members)

end Diagnostic

/-- What is told while an audit goes on. -/
inductive Event
  | finding (f : Finding)
  | diagnostic (d : Diagnostic)
deriving DecidableEq, Repr

/-- The line about an event. -/
def Event.line : Event → Text
  | finding f => f.line
  | diagnostic d => d.line

/-! ### The outcome of an audit -/

/-- How an audit ended. -/
inductive Status
  | clean
  | missingMetrics
  | incomplete
deriving DecidableEq, Repr

namespace Status

/-- Findings outrank diagnostics. -/
def derive (findings diagnostics : Nat) : Status :=
  if 0 < findings then missingMetrics else if 0 < diagnostics then incomplete else clean

theorem derive_eq_missingMetrics {findings diagnostics : Nat} :
    derive findings diagnostics = missingMetrics ↔ 0 < findings := by
  grind [derive]

theorem derive_eq_incomplete {findings diagnostics : Nat} :
    derive findings diagnostics = incomplete ↔ findings = 0 ∧ 0 < diagnostics := by
  grind [derive]

theorem derive_eq_clean {findings diagnostics : Nat} :
    derive findings diagnostics = clean ↔ findings = 0 ∧ diagnostics = 0 := by
  grind [derive]

/-- The word for a status. -/
def word : Status → Text
  | clean => "clean"
  | missingMetrics => "missing_metrics"
  | incomplete => "incomplete"

/-- The exit code of a program whose audit ended so. -/
def exitCode : Status → Nat
  | clean => 0
  | missingMetrics => 1
  | incomplete => 3

/-- The exit code of a program that could not do its audit. -/
def fatalExitCode : Nat := 2

/-- The exit code of a program that could not do its audit, and could not say so. -/
def speechlessExitCode : Nat := 101

theorem exitCode_inj (s t : Status) : s.exitCode = t.exitCode ↔ s = t := by
  cases s <;> cases t <;> decide

theorem exitCode_ne_fatal (s : Status) : s.exitCode ≠ fatalExitCode := by
  cases s <;> decide

theorem exitCode_ne_speechless (s : Status) : s.exitCode ≠ speechlessExitCode := by
  cases s <;> decide

end Status

/-- What an audit has counted. -/
structure Counters where
  rulesListed : Nat
  rulesValidated : Nat
  metricsChecked : Nat
  backendCalls : Nat
  cacheHits : Nat
deriving DecidableEq, Repr

/-- Nothing has been counted. -/
def Counters.zero : Counters := ⟨0, 0, 0, 0, 0⟩

def Counters.toJson (c : Counters) : Value :=
  .object [countMember "rules_listed" c.rulesListed, countMember "rules_validated" c.rulesValidated,
    countMember "metrics_checked" c.metricsChecked, countMember "backend_calls" c.backendCalls,
    countMember "cache_hits" c.cacheHits]

/-- All that an audit has found, in order. -/
structure Results where
  counters : Counters
  findings : List Finding
  diagnostics : List Diagnostic
deriving DecidableEq, Repr

namespace Results

/-- How the audit ended. -/
def status (r : Results) : Status := Status.derive r.findings.length r.diagnostics.length

/-- The members of a report on the results. -/
def members (r : Results) : List (Text × Value) :=
  [textMember "status" r.status.word, ("counters", r.counters.toJson),
   ("findings", .array (r.findings.map Finding.toJson)),
   ("diagnostics", .array (r.diagnostics.map Diagnostic.toJson))]

end Results

/-- The results of an audit with its number and its times. -/
structure Report where
  runId : Text
  startedAt : Text
  finishedAt : Text
  results : Results
deriving DecidableEq, Repr

def Report.toJson (r : Report) : Value :=
  .object ([textMember "run_id" r.runId, textMember "started_at" r.startedAt,
    textMember "finished_at" r.finishedAt] ++ r.results.members)

end RuleAudit
