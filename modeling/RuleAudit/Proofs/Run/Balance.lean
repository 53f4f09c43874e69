import Mathlib.Data.Finset.Card
import RuleAudit.Proofs.Query.Selection
import RuleAudit.Proofs.Run.Memo

/-!
What an audit counts, and what the counts have to do with each other and with what has passed
between the audit and its server.

* `Visit.balance`: every visit is counted as just one of three;
* `Balanced`: how the counts of an audit balance;
* `Audit.run_balanced`: the counts of every audit balance, whatever has been counted before.
-/

namespace RuleAudit

/-! ### What is counted -/

/-- The act is a lookup with which the server has failed. -/
def Act.isFailure : Act → Bool
  | asked _ _ (.error _) => true
  | _ => false

/-- The text of the rule is a query. -/
def RuleQuery.isReadable (q : RuleQuery) : Bool := (Query.parse q.query).isOk

/-- The call has come to no verdict. -/
def Call.isFailure (k : Call) : Bool := !k.result.isOk

/-- The server has failed with a lookup for the query. -/
def Visit.isInterrupted (v : Visit) : Bool := v.acts.any Act.isFailure

theorem RuleQuery.metrics_nodup (q : RuleQuery) : q.metrics.Nodup := by
  unfold metrics
  cases Query.parse q.query with
  | error message => exact .nil
  | ok e => exact e.nodup_metrics

/-- A visit comes to calls if and only if the text is a query. -/
theorem Visit.Reads.cases_isReadable {v : Visit} (h : v.Reads) :
    (∃ message, v.found = .error message ∧ v.query.isReadable = false) ∨
      ∃ ks, v.found = .ok ks ∧ v.query.isReadable = true := by
  unfold RuleQuery.isReadable
  obtain ⟨message, hv, hq⟩ | ⟨ks, e, hv, hq, -⟩ := h.cases
  · exact .inl ⟨message, hv, by rw [hq]; rfl⟩
  · exact .inr ⟨ks, hv, by rw [hq]; rfl⟩

/-! ### Calls and visits -/

theorem Call.Legal.countP_isFailure {k : Call} (h : k.Legal asking) (q : RuleQuery) :
    (k.actsFor q).countP Act.isFailure = if k.isFailure then 1 else 0 := by
  have hevent : ∀ e : Option Event, (e.toList.map Act.told).countP Act.isFailure = 0 := by
    rintro (_ | e) <;> rfl
  rw [actsFor, List.countP_append, hevent, Nat.add_zero]
  cases h with
  | known => rfl
  | failed _ ha =>
    rw [ha]
    rfl
  | answered _ ha =>
    rw [ha]
    rfl

theorem Call.diagnostic_length (k : Call) (q : RuleQuery) :
    ((k.event? q).toList.filterMap Event.diagnostic?).length = if k.isFailure then 1 else 0 := by
  unfold event? isFailure
  rcases k.result with e | found
  · rfl
  · cases found <;> rfl

namespace Visit

variable {v : Visit}

theorem countP_isFailure (h : ∀ k ∈ v.calls, k.Legal asking) :
    v.acts.countP Act.isFailure = v.calls.countP Call.isFailure := by
  rcases v with ⟨q, message | ks⟩
  · rfl
  · change (ks.flatMap (Call.actsFor q)).countP Act.isFailure = ks.countP Call.isFailure
    have hks : ∀ k ∈ ks, k.Legal asking := h
    clear h
    induction ks with
    | nil => rfl
    | cons k rest ih =>
      obtain ⟨hk, hrest⟩ := List.forall_mem_cons.1 hks
      rw [List.flatMap_cons, List.countP_append, hk.countP_isFailure, ih hrest, List.countP_cons,
        Nat.add_comm]

theorem isInterrupted_iff (h : ∀ k ∈ v.calls, k.Legal asking) :
    v.isInterrupted = true ↔ 0 < v.calls.countP Call.isFailure := by
  rw [← countP_isFailure h, List.countP_pos_iff, isInterrupted, List.any_eq_true]

/-- There is a diagnostic for a text that is no query, and one for each call that fails. -/
theorem diagnostics_length (h : v.Reads) :
    ((v.outcome.events v.query).filterMap Event.diagnostic?).length =
      (if v.query.isReadable then 0 else 1) + v.calls.countP Call.isFailure := by
  obtain ⟨message, hv, hread⟩ | ⟨ks, hv, hread⟩ := h.cases_isReadable
  · rw [outcome, calls, hv, hread]
    rfl
  · rw [hread, calls, hv]
    rcases v with ⟨q, found⟩
    obtain rfl : found = .ok ks := hv
    rw [events_outcome]
    clear hread h
    induction ks with
    | nil => rfl
    | cons k rest ih =>
      rw [filterMap_cons_toList, List.filterMap_append, List.length_append, k.diagnostic_length,
        ih, List.countP_cons]
      simp only [if_true]
      omega

theorem isComplete_outcome (h : v.Reads) (hl : ∀ k ∈ v.calls, k.Legal asking) :
    v.outcome.isComplete = (v.query.isReadable && !v.isInterrupted) := by
  obtain ⟨message, hv, hread⟩ | ⟨ks, hv, hread⟩ := h.cases_isReadable
  · rw [outcome, hv, hread]
    rfl
  · have hinterrupted := isInterrupted_iff hl
    rw [calls, hv, List.countP_pos_iff] at hinterrupted
    rw [hread, Bool.true_and, outcome, hv, Bool.eq_iff_iff, Bool.not_eq_true', ← Bool.not_eq_true,
      hinterrupted]
    simp [Outcome.isComplete, Call.isFailure]

/-- **Every visit is counted as just one of three**: it has been completed, its text is no query, or
it has been interrupted. -/
theorem balance (h : v.Reads) (hl : ∀ k ∈ v.calls, k.Legal asking) :
    v.outcome.isComplete.toNat + (!v.query.isReadable).toNat + v.isInterrupted.toNat = 1 := by
  rw [isComplete_outcome h hl]
  obtain ⟨message, hv, hread⟩ | ⟨ks, hv, hread⟩ := h.cases_isReadable
  · rw [hread, isInterrupted, acts, hv]
    rfl
  · rw [hread]
    cases v.isInterrupted <;> rfl

end Visit

/-! ### Tours -/

/-- If each of some things is just one of three, their number is that of each of the three. -/
theorem length_eq_countP_add {α : Type} {as : List α} {p q r : α → Bool}
    (h : ∀ a ∈ as, (p a).toNat + (q a).toNat + (r a).toNat = 1) :
    as.length = as.countP p + as.countP q + as.countP r := by
  induction as with
  | nil => rfl
  | cons a rest ih =>
    obtain ⟨ha, hrest⟩ := List.forall_mem_cons.1 h
    have hbool : ∀ b : Bool, b.toNat = if b = true then 1 else 0 := by decide
    rw [hbool, hbool, hbool] at ha
    rw [List.length_cons, ih hrest, List.countP_cons, List.countP_cons, List.countP_cons]
    omega

/-- If no visit has been interrupted, no lookup has failed, and conversely. -/
theorem countP_isInterrupted_eq_zero (vs : List Visit) :
    vs.countP Visit.isInterrupted = 0 ↔ (vs.flatMap Visit.acts).countP Act.isFailure = 0 := by
  simp only [List.countP_eq_zero, List.mem_flatMap, Visit.isInterrupted, List.any_eq_true]
  constructor
  · rintro hnone a ⟨v, hv, ha⟩ hfail
    exact hnone v hv ⟨a, ha, hfail⟩
  · rintro hnone v hv ⟨a, ha, hfail⟩
    exact hnone a ⟨v, hv, ha⟩ hfail

section

variable {W : Type} {s : Surroundings (StateM (Watched W))} {qs : List RuleQuery} {c c' : Checker}
  {vs : List Visit}

namespace Tour

theorem length_queries (h : Tour s qs c vs c') : (outcomesOf vs).length = qs.length := by
  rw [← h.queries, outcomesOf, List.length_map, List.length_map]

theorem countP_unreadable (h : Tour s qs c vs c') :
    qs.countP (!·.isReadable) = vs.countP fun v => !v.query.isReadable := by
  rw [← h.queries, List.countP_map]
  rfl

theorem rules_balance (hs : s.Records asking) (h : Tour s qs c vs c') :
    qs.length = ((outcomesOf vs).filter (·.2.isComplete)).length + qs.countP (!·.isReadable) +
      vs.countP Visit.isInterrupted := by
  rw [h.countP_unreadable, ← List.countP_eq_length_filter, outcomesOf, List.countP_map,
    ← h.length_queries, outcomesOf, List.length_map]
  exact length_eq_countP_add fun v hv => Visit.balance (h.reads v hv) (h.legal hs v hv)

theorem diagnostics_length (hs : s.Records asking) (h : Tour s qs c vs c') :
    ((outcomesOf vs).events.filterMap Event.diagnostic?).length =
      qs.countP (!·.isReadable) + (vs.flatMap Visit.acts).countP Act.isFailure := by
  have hvisit : ∀ v ∈ vs, ((v.outcome.events v.query).filterMap Event.diagnostic?).length =
      (if v.query.isReadable then 0 else 1) + v.acts.countP Act.isFailure := by
    intro v hv
    rw [Visit.diagnostics_length (h.reads v hv), Visit.countP_isFailure (h.legal hs v hv)]
  rw [h.countP_unreadable]
  clear h
  induction vs with
  | nil => rfl
  | cons v rest ih =>
    obtain ⟨hv, hrest⟩ := List.forall_mem_cons.1 hvisit
    have hevents : (outcomesOf (v :: rest)).events =
        v.outcome.events v.query ++ (outcomesOf rest).events := rfl
    rw [hevents, List.filterMap_append, List.length_append, hv, ih hrest, List.flatMap_cons,
      List.countP_append, List.countP_cons]
    cases v.query.isReadable <;> simp <;> omega

theorem metrics_length (h : Tour s qs c vs c') :
    (vs.flatMap Visit.calls).length = (qs.map fun q => q.metrics.toFinset.card).sum := by
  rw [← List.length_map Call.metric, h.metrics, List.length_flatMap]
  refine congrArg List.sum (List.map_congr_left fun q _ => ?_)
  exact (List.toFinset_card_of_nodup q.metrics_nodup).symm

theorem lookups (hs : s.Records asking) (h : Tour s qs c vs c') :
    c'.lookups = c.lookups + (vs.flatMap Visit.acts).countP Act.isLookup := by
  rw [h.session.lookups hs, ← h.filter_acts hs, List.countP_filter]
  simp

end Tour

end

/-! ### Balances -/

/-- How the counts of an audit balance: its queries, its visits, what has been written down about
it, and its results. -/
structure Balanced (qs : List RuleQuery) (vs : List Visit) (acts : List Act) (r : Results) :
    Prop where
  listed : r.counters.rulesListed = qs.length
  /-- A rule has been validated, or its text is no query, or a lookup for it has failed. -/
  rules : r.counters.rulesListed = r.counters.rulesValidated + qs.countP (!·.isReadable) +
    vs.countP Visit.isInterrupted
  metrics : r.counters.metricsChecked = (qs.map fun q => q.metrics.toFinset.card).sum
  /-- Every metric of every rule takes a lookup or a hit. -/
  references : r.counters.metricsChecked = r.counters.backendCalls + r.counters.cacheHits
  lookups : r.counters.backendCalls = acts.countP Act.isLookup
  /-- There is a diagnostic for every text that is no query and for every lookup that fails. -/
  diagnostics : r.diagnostics.length = qs.countP (!·.isReadable) + acts.countP Act.isFailure
  complete : r.counters.rulesValidated = r.counters.rulesListed ↔ r.diagnostics = []

theorem Tour.balanced {W : Type} {s : Surroundings (StateM (Watched W))} (hs : s.Records asking)
    {qs : List RuleQuery} {c c' : Checker} {vs : List Visit} (h : Tour s qs c vs c') :
    Balanced qs vs (vs.flatMap Visit.acts)
      ((outcomesOf vs).results (c'.lookups - c.lookups) (c'.hits - c.hits)) := by
  have hrules := h.rules_balance hs
  have hdiagnostics := h.diagnostics_length hs
  refine ⟨h.length_queries, h.length_queries.trans hrules, ?_, ?_, ?_, hdiagnostics, ?_⟩
  · exact (metricCount_outcomesOf vs).trans h.metrics_length
  · obtain ⟨hsum, hl, hh⟩ := h.session.counted hs
    have hcount := metricCount_outcomesOf vs
    change ((outcomesOf vs).map (·.2.metricCount)).sum =
      (c'.lookups - c.lookups) + (c'.hits - c.hits)
    omega
  · have hl := h.lookups hs
    change c'.lookups - c.lookups = _
    omega
  · have hinterrupted := countP_isInterrupted_eq_zero vs
    have hlength := h.length_queries
    rw [← List.length_eq_zero_iff]
    change ((outcomesOf vs).filter (·.2.isComplete)).length = (outcomesOf vs).length ↔
      ((outcomesOf vs).events.filterMap Event.diagnostic?).length = 0
    omega

/-- **The counts balance**: an audit that starts with any checker, whatever that has counted and
knows, counts what happens in it and nothing else, and counts it once. -/
theorem Audit.run_balanced {W : Type} (s : Surroundings (StateM W))
    (source : StateM W (Except Error (List RuleQuery))) (c : Checker) (w : W) :
    let after := run s.watched (quietly source) c ⟨w, []⟩
    after.1 = (run s source c w).1 ∧
      ∀ qs, (source w).1 = .ok qs →
        ∃ vs r, Tour s.watched qs c vs after.1.2 ∧ after.2.acts = vs.flatMap Visit.acts ∧
          after.1.1 = .ok r ∧ Balanced qs vs after.2.acts r := by
  intro after
  have hs := s.watched_records
  refine ⟨(run_mirrors s.watched_mirror source c ⟨w, []⟩).1, fun qs hqs => ?_⟩
  obtain ⟨vs, c', w', ht, hrun⟩ := run_tour hs (quietly_eq (x := ⟨w, []⟩) hqs) c
  rw [List.nil_append] at hrun
  rw [show after = _ from hrun]
  exact ⟨vs, _, ht, rfl, rfl, ht.balanced hs⟩

theorem run_balanced_fickle :
    let after := Audit.run fickle.watched (quietly (pure (.ok (alerts ["up + down", "up +"]))))
      ⟨.empty, 7, 3⟩ ⟨0, []⟩
    ∃ vs r, after.2.acts = vs.flatMap Visit.acts ∧ after.1.1 = .ok r ∧
      Balanced (alerts ["up + down", "up +"]) vs after.2.acts r := by
  obtain ⟨vs, r, -, hacts, hr, hbalanced⟩ :=
    (Audit.run_balanced fickle (pure (.ok _)) ⟨.empty, 7, 3⟩ 0).2 (alerts ["up + down", "up +"]) rfl
  exact ⟨vs, r, hacts, hr, hbalanced⟩

end RuleAudit
