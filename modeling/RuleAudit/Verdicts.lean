import RuleAudit.Text.Basic

/-!
What has been found out about metrics: for some names, whether the metric exists. No name has two
verdicts.
-/

namespace RuleAudit

/-- Verdicts about metrics, each with the name of its metric. -/
structure Verdicts where
  entries : List (Text × Bool)
  distinct : entries.Pairwise (·.1 ≠ ·.1)

namespace Verdicts

/-- No verdicts. -/
def empty : Verdicts := ⟨[], .nil⟩

/-- The verdict about a metric, if there is one. -/
def get? (v : Verdicts) (metric : Text) : Option Bool := v.entries.lookup metric

/-- Enters a verdict, in place of an earlier one about the same metric. -/
def put (v : Verdicts) (metric : Text) (found : Bool) : Verdicts where
  entries := (metric, found) :: v.entries.filter (·.1 != metric)
  distinct := by
    refine .cons ?_ (v.distinct.filter _)
    intro e he
    simp only [List.mem_filter, bne_iff_ne] at he
    exact he.2.symm

/-- The number of metrics with a verdict. -/
def size (v : Verdicts) : Nat := v.entries.length

/-- There is no verdict. -/
def isEmpty (v : Verdicts) : Bool := v.entries.isEmpty

@[simp] theorem get?_empty (metric : Text) : empty.get? metric = none := rfl

@[simp] theorem get?_put_self (v : Verdicts) (metric : Text) (found : Bool) :
    (v.put metric found).get? metric = some found := by
  simp [get?, put]

@[simp] theorem get?_put_of_ne (v : Verdicts) {metric other : Text} (found : Bool)
    (h : other ≠ metric) : (v.put metric found).get? other = v.get? other := by
  have hb : (other == metric) = false := by simpa using h
  simp only [get?, put, List.lookup_cons, hb]
  induction v.entries with
  | nil => rfl
  | cons e rest ih =>
    obtain ⟨name, b⟩ := e
    by_cases hm : name = metric
    · subst hm
      simp [List.lookup_cons, hb, ih]
    · by_cases ho : other = name
      · subst ho
        simp [hm]
      · have hb2 : (other == name) = false := by simpa using ho
        simp [hm, List.lookup_cons, hb2, ih]

end Verdicts

end RuleAudit
