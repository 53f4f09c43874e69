import Mathlib.Data.Char
import Mathlib.Data.List.Lex
import Mathlib.Logic.Relation
import RuleAudit.Proofs.Query.Computing

/-!
Which metrics an expression is found to ask for.

* `Expr.Occurs a e`: the expression `a` stands in `e` at some depth, or is `e`;
* `Expr.OccursOpenly a e`: it does, and not inside the parameter of an aggregation;
* `Expr.metrics_exact`: the listed metrics are the names of the selectors that occur openly, each
  once and in order; so they are the names of all selectors exactly if no name occurs in parameters
  only.
-/

namespace RuleAudit

/-! ### Sets of texts in order -/

namespace Text

theorem mem_insertSorted {t u : Text} {ts : List Text} :
    u ∈ insertSorted t ts ↔ u = t ∨ u ∈ ts := by
  induction ts with
  | nil => simp [insertSorted]
  | cons v rest ih =>
    unfold insertSorted
    split
    · simp
    · split
      · rename_i h
        simp [h]
      · simp only [List.mem_cons, ih]
        exact or_left_comm

theorem mem_sortedSet {t : Text} {ts : List Text} : t ∈ sortedSet ts ↔ t ∈ ts := by
  induction ts with
  | nil => simp [sortedSet]
  | cons u rest ih =>
    have hstep : sortedSet (u :: rest) = insertSorted u (sortedSet rest) := rfl
    rw [hstep, mem_insertSorted, ih, List.mem_cons]

theorem pairwise_insertSorted {t : Text} {ts : List Text} (h : ts.Pairwise (· < ·)) :
    (insertSorted t ts).Pairwise (· < ·) := by
  induction ts with
  | nil => simp [insertSorted]
  | cons u rest ih =>
    obtain ⟨hu, hrest⟩ := List.pairwise_cons.1 h
    unfold insertSorted
    split
    · rename_i htu
      refine List.pairwise_cons.2 ⟨?_, h⟩
      intro v hv
      rcases List.mem_cons.1 hv with rfl | hv
      · exact htu
      · exact lt_trans htu (hu v hv)
    · rename_i htu
      split
      · exact h
      · rename_i hne
        refine List.pairwise_cons.2 ⟨?_, ih hrest⟩
        intro v hv
        rcases mem_insertSorted.1 hv with rfl | hv
        · exact lt_of_le_of_ne (not_lt.1 htu) (Ne.symm hne)
        · exact hu v hv

theorem pairwise_sortedSet (ts : List Text) : (sortedSet ts).Pairwise (· < ·) := by
  induction ts with
  | nil => exact .nil
  | cons u rest ih => exact pairwise_insertSorted ih

end Text

namespace Query.Expr

/-! ### Parts of an expression -/

/-- The immediate parts of an expression, but for the parameter of an aggregation. -/
def parts : Expr → List Expr
  | aggregate _ _ _ body => [body]
  | negate body => [body]
  | binary _ _ _ left right => [left, right]
  | paren body => [body]
  | subquery body _ _ _ => [body]
  | number _ => []
  | string _ => []
  | vector _ => []
  | matrix _ _ => []
  | call _ args => args

/-- The parameter of an aggregation that has one. -/
def parameter? : Expr → Option Expr
  | aggregate _ _ parameter _ => parameter
  | _ => none

/-- The expression `a` stands in `e` at some depth, or is `e`. -/
def Occurs : Expr → Expr → Prop :=
  Relation.ReflTransGen fun a e => a ∈ e.parts ∨ e.parameter? = some a

/-- The expression `a` stands in `e`, and not inside the parameter of an aggregation. -/
def OccursOpenly : Expr → Expr → Prop := Relation.ReflTransGen fun a e => a ∈ e.parts

/-- The expression `a` stands inside the parameter of an aggregation in `e`. -/
def OccursInParameter (a e : Expr) : Prop :=
  ∃ p g, Occurs a p ∧ g.parameter? = some p ∧ Occurs g e

/-- A selector of instants or of ranges that has the metric as its positional name. -/
inductive SelectorOf (metric : Text) : Expr → Prop
  | vector {s : Selector} (h : s.name = some metric) : SelectorOf metric (.vector s)
  | matrix {s : Selector} {range : Nat} (h : s.name = some metric) :
    SelectorOf metric (.matrix s range)

theorem OccursOpenly.occurs {a e : Expr} (h : OccursOpenly a e) : Occurs a e :=
  Relation.ReflTransGen.mono (fun _ _ => Or.inl) _ _ h

/-- Whatever stands in an expression does so openly or inside a parameter. -/
theorem occurs_iff {a e : Expr} : Occurs a e ↔ OccursOpenly a e ∨ OccursInParameter a e := by
  constructor
  · intro h
    induction h with
    | refl => exact .inl .refl
    | @tail b c hab hbc ih =>
      rcases hbc with hbc | hbc
      · rcases ih with ih | ⟨p, g, hap, hpg, hgb⟩
        · exact .inl (ih.tail hbc)
        · exact .inr ⟨p, g, hap, hpg, hgb.tail (.inl hbc)⟩
      · exact .inr ⟨b, c, hab, hbc, .refl⟩
  · rintro (h | ⟨p, g, hap, hpg, hge⟩)
    · exact h.occurs
    · exact (hap.tail (.inr hpg)).trans hge

/-! ### The metrics of an expression -/

/-- A selector of the metric, which is not empty, stands openly in the expression. -/
def Selects (e : Expr) (metric : Text) : Prop :=
  metric ≠ [] ∧ ∃ a, OccursOpenly a e ∧ SelectorOf metric a

/-- What an expression selects is selected by itself or by one of its parts. -/
theorem selects_iff {e : Expr} {metric : Text} :
    e.Selects metric ↔ (metric ≠ [] ∧ SelectorOf metric e) ∨ ∃ b ∈ e.parts, b.Selects metric := by
  constructor
  · rintro ⟨hne, a, hae, ha⟩
    rcases hae.cases_tail with rfl | ⟨b, hab, hb⟩
    · exact .inl ⟨hne, ha⟩
    · exact .inr ⟨b, hb, hne, a, hab, ha⟩
  · rintro (⟨hne, he⟩ | ⟨b, hb, hne, a, hab, ha⟩)
    · exact ⟨hne, e, .refl, he⟩
    · exact ⟨hne, a, hab.tail hb, ha⟩

theorem mem_metric?_iff {s : Selector} {metric : Text} :
    metric ∈ s.metric?.toList ↔ metric ≠ [] ∧ s.name = some metric := by
  simp [Selector.metric?, Option.filter_eq_some_iff, and_comm]

theorem selectorOf_vector {s : Selector} {metric : Text} :
    SelectorOf metric (.vector s) ↔ s.name = some metric :=
  ⟨fun | .vector h => h, .vector⟩

theorem selectorOf_matrix {s : Selector} {range : Nat} {metric : Text} :
    SelectorOf metric (.matrix s range) ↔ s.name = some metric :=
  ⟨fun | .matrix h => h, .matrix⟩

/-- What is no selector selects what its parts select. -/
theorem selects_iff_parts {e : Expr} {metric : Text} (h : ¬ SelectorOf metric e) :
    e.Selects metric ↔ ∃ b ∈ e.parts, b.Selects metric := by
  rw [selects_iff]
  simp [h]

mutual
/-- The metrics of the selectors that an expression is searched for are those that it selects. -/
theorem mem_selected_iff (metric : Text) : ∀ e : Expr, metric ∈ e.selected ↔ e.Selects metric
  | aggregate _ _ _ body => by
    rw [selected, selects_iff_parts, mem_selected_iff metric body]
    · simp [parts]
    · exact nofun
  | negate body => by
    rw [selected, selects_iff_parts, mem_selected_iff metric body]
    · simp [parts]
    · exact nofun
  | binary _ _ _ left right => by
    rw [selected, selects_iff_parts, List.mem_append, mem_selected_iff metric left,
      mem_selected_iff metric right]
    · simp [parts]
    · exact nofun
  | paren body => by
    rw [selected, selects_iff_parts, mem_selected_iff metric body]
    · simp [parts]
    · exact nofun
  | subquery body _ _ _ => by
    rw [selected, selects_iff_parts, mem_selected_iff metric body]
    · simp [parts]
    · exact nofun
  | number _ => by
    rw [selected, selects_iff_parts]
    · simp [parts]
    · exact nofun
  | string _ => by
    rw [selected, selects_iff_parts]
    · simp [parts]
    · exact nofun
  | vector s => by
    rw [selected, mem_metric?_iff, selects_iff, selectorOf_vector]
    simp [parts]
  | matrix s range => by
    rw [selected, mem_metric?_iff, selects_iff, selectorOf_matrix]
    simp [parts]
  | call _ args => by
    rw [selected, selects_iff_parts, mem_selectedAll_iff metric args]
    · simp [parts]
    · exact nofun

theorem mem_selectedAll_iff (metric : Text) :
    ∀ es : List Expr, metric ∈ selectedAll es ↔ ∃ e ∈ es, e.Selects metric
  | [] => by simp [selectedAll]
  | e :: es => by
    rw [selectedAll, List.mem_append, mem_selected_iff metric e, mem_selectedAll_iff metric es]
    simp
end

theorem mem_metrics_iff {e : Expr} {metric : Text} : metric ∈ e.metrics ↔ e.Selects metric := by
  rw [metrics, Text.mem_sortedSet, mem_selected_iff]

theorem nodup_metrics (e : Expr) : e.metrics.Nodup := (Text.pairwise_sortedSet _).imp ne_of_lt

/-- **The listed metrics**: they are in strict order, they are the names of the selectors that stand
openly in the expression, and they are the names of all selectors in it exactly if every name in the
parameter of an aggregation stands openly somewhere else. -/
theorem metrics_exact (e : Expr) :
    e.metrics.Pairwise (· < ·) ∧
    (∀ m, m ∈ e.metrics ↔ m ≠ [] ∧ ∃ a, OccursOpenly a e ∧ SelectorOf m a) ∧
    ((∀ m, m ∈ e.metrics ↔ m ≠ [] ∧ ∃ a, Occurs a e ∧ SelectorOf m a) ↔
      ∀ m, m ≠ [] → (∃ a, OccursInParameter a e ∧ SelectorOf m a) →
        ∃ a, OccursOpenly a e ∧ SelectorOf m a) := by
  refine ⟨Text.pairwise_sortedSet _, fun m => mem_metrics_iff, ?_⟩
  constructor
  · rintro h m hne ⟨a, hae, ha⟩
    have hm : m ∈ e.metrics := (h m).2 ⟨hne, a, occurs_iff.2 (.inr hae), ha⟩
    exact (mem_metrics_iff.1 hm).2
  · intro h m
    rw [mem_metrics_iff]
    constructor
    · rintro ⟨hne, a, hae, ha⟩
      exact ⟨hne, a, hae.occurs, ha⟩
    · rintro ⟨hne, a, hae, ha⟩
      rcases occurs_iff.1 hae with hae | hae
      · exact ⟨hne, a, hae, ha⟩
      · exact ⟨hne, h m hne ⟨a, hae, ha⟩⟩

/-- The selector of a metric without matchers. -/
def bare (metric : Text) : Expr := .vector ⟨some metric, [], .unmoved⟩

/-- **A metric that only the parameter of an aggregation names is not listed.** -/
theorem parameter_unlisted : ∃ e, parse "quantile(scalar(q), lat)" = .ok e ∧ e.metrics = ["lat"] ∧
    ∃ a, Occurs a e ∧ SelectorOf "q" a := by
  let p : Expr := .call ⟨"scalar", [.vector], .exact, .scalar⟩ [bare "q"]
  refine ⟨.aggregate .quantile none (some p) (bare "lat"), ?_, by rfl, bare "q", ?_, .vector rfl⟩
  · exact parse_eq_ok [.keyword (.aggregator .quantile) "quantile", .leftParen, .name "scalar",
      .leftParen, .name "q", .rightParen, .comma, .name "lat", .rightParen, .stop]
      (.aggregate .quantile none [.call "scalar" [.vector (some "q") none] false,
        .vector (some "lat") none] false) (by rfl) (by rfl) (by rfl)
  · exact (Relation.ReflTransGen.single (.inl (by simp [p, parts]))).tail (.inr rfl)

end Query.Expr

end RuleAudit
