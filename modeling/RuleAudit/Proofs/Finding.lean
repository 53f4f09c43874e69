import RuleAudit.Proofs.Text.Quoted
import RuleAudit.Report

/-!
# What the line of a finding tells

The query and the metric of a finding stand in its line in quoted form. They are read back from the
line, also if the query has quotes, breaks or the words of the line in it.

* `Finding.read?`: the query and the metric of which a line tells;
* `Finding.line_tells`: they are those of the finding, and nothing else counts for the line.
-/

namespace RuleAudit

open Text

theorem Text.after?_append (start t : Text) : after? start (start ++ t) = some t := by
  have hstart : start.isPrefixOf (start ++ t) = true :=
    List.isPrefixOf_iff_prefix.2 (List.prefix_append start t)
  rw [after?, if_pos hstart, List.drop_left]

namespace Finding

/-- The query and the metric of which a line tells. -/
def read? (t : Text) : Option (Text × Text) := do
  let (query, t) ← Quoted.read? (← after? "rule " t)
  let (metric, t) ← Quoted.read? (← after? ": metric " t)
  if t = " not found!" then some (query, metric) else none

/-- The line in the order in which it is read. -/
theorem line_eq (f : Finding) :
    f.line = "rule " ++ (quoted f.query ++ (": metric " ++ (quoted f.metric ++ " not found!"))) := by
  change "rule " ++ quoted f.query ++ ": metric " ++ quoted f.metric ++ " not found!" = _
  rw [List.append_assoc, List.append_assoc, List.append_assoc]

theorem read?_line (f : Finding) : read? f.line = some (f.query, f.metric) := by
  rw [line_eq, read?, after?_append, Option.bind_eq_bind, Option.bind_some, Quoted.read?_quoted,
    Option.bind_eq_bind, Option.bind_some]
  dsimp only
  rw [after?_append, Option.bind_some, Quoted.read?_quoted, Option.bind_some]
  exact if_pos rfl

/-- **The line of a finding tells its query and its metric.** Both are read back from the line,
whatever characters they have; and two findings have the same line if and only if they have the same
query and the same metric. -/
theorem line_tells (f g : Finding) :
    read? f.line = some (f.query, f.metric) ∧
      (f.line = g.line ↔ f.query = g.query ∧ f.metric = g.metric) := by
  refine ⟨f.read?_line, ?_, ?_⟩
  · intro h
    have hsame : some (f.query, f.metric) = some (g.query, g.metric) := by
      rw [← f.read?_line, ← g.read?_line, h]
    exact Prod.mk.inj (Option.some.inj hsame)
  · rintro ⟨hquery, hmetric⟩
    rw [line_eq, line_eq, hquery, hmetric]

end Finding

end RuleAudit
