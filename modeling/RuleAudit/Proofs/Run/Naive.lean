import RuleAudit.Proofs.Run.Memo

/-!
The naive audit, which keeps no verdicts and asks the server for every metric of every query, and
what an audit with verdicts has to do with it.

* `Naive.run`: the naive audit, which enters one thing after another into its results;
* `Audit.run_refines_naive`: as long as the server does not change its mind, an audit finds and
  tells the same, with no more lookups.
-/

namespace RuleAudit

/-! ### Entering results -/

namespace Results

/-- The results before anything has been checked. -/
def listing (count : Nat) : Results := ⟨{ Counters.zero with rulesListed := count }, [], []⟩

/-- One more metric has been checked, with a lookup. -/
def countMetric (r : Results) : Results :=
  { r with counters := { r.counters with
      metricsChecked := r.counters.metricsChecked + 1
      backendCalls := r.counters.backendCalls + 1 } }

/-- One more query has been checked without a failure. -/
def countQuery (r : Results) : Results :=
  { r with counters := { r.counters with rulesValidated := r.counters.rulesValidated + 1 } }

/-- One more event has happened. -/
def enter (r : Results) : Event → Results
  | .finding f => { r with findings := r.findings ++ [f] }
  | .diagnostic d => { r with diagnostics := r.diagnostics ++ [d] }

/-- Results to which queries, metrics and events have been added. -/
def extend (r : Results) (queries metrics : Nat) (es : List Event) : Results where
  counters := { r.counters with
    rulesValidated := r.counters.rulesValidated + queries
    metricsChecked := r.counters.metricsChecked + metrics
    backendCalls := r.counters.backendCalls + metrics }
  findings := r.findings ++ es.filterMap Event.finding?
  diagnostics := r.diagnostics ++ es.filterMap Event.diagnostic?

theorem extend_zero (r : Results) : r.extend 0 0 [] = r := by simp [extend]

theorem extend_extend (r : Results) (queries metrics queries' metrics' : Nat)
    (es es' : List Event) :
    (r.extend queries metrics es).extend queries' metrics' es' =
      r.extend (queries + queries') (metrics + metrics') (es ++ es') := by
  simp [extend, Nat.add_assoc]

theorem countMetric_eq (r : Results) : r.countMetric = r.extend 0 1 [] := by
  simp [extend, countMetric]

theorem countQuery_eq (r : Results) : r.countQuery = r.extend 1 0 [] := by
  simp [extend, countQuery]

theorem enter_eq (r : Results) (e : Event) : r.enter e = r.extend 0 0 [e] := by
  cases e <;> simp [extend, enter, Event.finding?, Event.diagnostic?]

theorem extend_listing {count : Nat} {os : Outcomes} (h : os.length = count) :
    (listing count).extend (os.filter (·.2.isComplete)).length (os.map (·.2.metricCount)).sum
      os.events = os.results (os.map (·.2.metricCount)).sum 0 := by
  simp [extend, listing, Counters.zero, Outcomes.results, h]

end Results

/-! ### The naive audit -/

namespace Naive

section Run

variable {m : Type → Type} [Monad m] (s : Surroundings m)

/-- Asks the server for a metric of a query; gives whether it has answered. -/
def checkMetric (q : RuleQuery) (metric : Text) (r : Results) : m (Bool × Results) := do
  match ← Checker.lookUp s metric with
  | .error e =>
    let missed : Event := .diagnostic (.of q (.metricLookup metric e))
    s.tell missed
    return (false, r.countMetric.enter missed)
  | .ok [] =>
    let missing : Event := .finding (.of q metric)
    s.tell missing
    return (true, r.countMetric.enter missing)
  | .ok (_ :: _) => return (true, r.countMetric)

/-- Asks the server for metrics of a query in order; gives whether it has answered each time. -/
def checkMetrics (q : RuleQuery) : List Text → Results → m (Bool × Results)
  | [], r => return (true, r)
  | metric :: rest, r => do
    let (answered, r) ← checkMetric s q metric r
    let (complete, r) ← checkMetrics q rest r
    return (answered && complete, r)

/-- Audits one query. -/
def auditQuery (q : RuleQuery) (r : Results) : m Results :=
  match Query.parse q.query with
  | .error message => do
    let unreadable : Event := .diagnostic (.of q (.parse q.query message))
    s.tell unreadable
    return r.enter unreadable
  | .ok e => do
    let (complete, r) ← checkMetrics s q e.metrics r
    return if complete then r.countQuery else r

/-- Audits queries in order. -/
def auditQueries : List RuleQuery → Results → m Results
  | [], r => return r
  | q :: rest, r => do
    let r ← auditQuery s q r
    auditQueries rest r

/-- The naive audit of queries. -/
def run (qs : List RuleQuery) : m Results := auditQueries s qs (.listing qs.length)

end Run

end Naive

/-! ### Servers that do not change their minds -/

/-- What a server answers to each selector: the number of series, or a failure. -/
abbrev Answers := Text → Except Error Nat

/-- The server gives the same answer to a selector whenever it is asked. -/
def Surroundings.Fixed {W : Type} (s : Surroundings (StateM W)) (answers : Answers) : Prop :=
  ∀ selector range w, (s.backend.series selector range w).1.map List.length = answers selector

namespace Answers

variable (answers : Answers)

/-- What comes of asking for a metric. -/
def verdict (metric : Text) : Except Error Bool :=
  ((answers (Lookup.selector metric)).map fun n => decide (0 < n)).mapError (.metricLookup metric)

/-- What comes of asking for all metrics of a query. -/
def outcome (q : RuleQuery) : Outcome :=
  match Query.parse q.query with
  | .error message => .unreadable (.parse q.query message)
  | .ok e => .checked (e.metrics.map fun metric => (metric, answers.verdict metric))

/-- What comes of asking for all metrics of queries. -/
def outcomes (qs : List RuleQuery) : Outcomes := qs.map fun q => (q, answers.outcome q)

/-- The account of lookups with these answers. -/
def account : Account := fun selector range acts answer =>
  asking selector range acts answer ∧ answer.map List.length = answers selector

end Answers

/-- All verdicts are what comes of asking: the server does not fail, and has series or not. -/
def Verdicts.AgreeWith (v : Verdicts) (answers : Answers) : Prop :=
  ∀ metric found, v.get? metric = some found →
    ∃ n, answers (Lookup.selector metric) = .ok n ∧ found = decide (0 < n)

section

variable {W : Type} {answers : Answers}

theorem Surroundings.Fixed.records {s : Surroundings (StateM W)} (h : s.Fixed answers) :
    s.watched.Records answers.account where
  series selector range x := ⟨_, rfl, rfl, h selector range x.world⟩
  now _ := rfl
  note _ _ := rfl
  tell _ _ := rfl
  untold h := s.watched_records.untold h.1

end

/-! ### What the naive audit comes to -/

namespace Naive

section

variable {W : Type} {answers : Answers} {s : Surroundings (StateM (Watched W))}
  {account : Account}

/-- Telling an event of a metric that has been checked, and entering both. -/
theorem tell_enter (hs : s.Records account) (e : Event) (answered : Bool) (r : Results)
    (y : Watched W) :
    ∃ w, (do
        s.tell e
        return (answered, r.countMetric.enter e) : StateM (Watched W) (Bool × Results)) y =
      ((answered, r.extend 0 1 [e]), ⟨w, y.acts ++ [.told e]⟩) := by
  refine ⟨(s.tell e y).2.world, ?_⟩
  rw [Results.countMetric_eq, Results.enter_eq, Results.extend_extend, ← hs.tell]
  rfl

theorem checkMetric_spec (hs : s.Records answers.account) (q : RuleQuery) (metric : Text)
    (r : Results) (x : Watched W) :
    ∃ w acts, told acts = (Outcome.eventOf q metric (answers.verdict metric)).toList ∧
      checkMetric s q metric r x =
        (((answers.verdict metric).isOk, r.extend 0 1 (told acts)), ⟨w, x.acts ++ acts⟩) := by
  obtain ⟨now, acts, hacts, ha⟩ := Checker.lookUp_acts hs metric x
  rcases hl : Checker.lookUp s metric x with ⟨answer, y⟩
  rw [hl] at hacts ha
  have huntold : told acts = [] := hs.untold ha
  have hverdict : answers.verdict metric =
      ((answer.map List.length).map fun n => decide (0 < n)).mapError (.metricLookup metric) := by
    rw [Answers.verdict, ← ha.2]
  rcases answer with e | ⟨_ | ⟨labels, rest⟩⟩
  · obtain ⟨w, hw⟩ := tell_enter hs (.diagnostic (.of q (.metricLookup metric e))) false r y
    refine ⟨w, acts ++ [.told (.diagnostic (.of q (.metricLookup metric e)))], ?_, ?_⟩
    · rw [hverdict, told_append, huntold]
      rfl
    · simp only [checkMetric, stateM_bind_apply, hl]
      rw [hverdict, told_append, huntold, ← List.append_assoc, ← hacts]
      exact hw
  · obtain ⟨w, hw⟩ := tell_enter hs (.finding (.of q metric)) true r y
    refine ⟨w, acts ++ [.told (.finding (.of q metric))], ?_, ?_⟩
    · rw [hverdict, told_append, huntold]
      rfl
    · simp only [checkMetric, stateM_bind_apply, hl]
      rw [hverdict, told_append, huntold, ← List.append_assoc, ← hacts]
      exact hw
  · refine ⟨y.world, acts, ?_, ?_⟩
    · rw [hverdict, huntold]
      rfl
    · simp only [checkMetric, stateM_bind_apply, hl]
      rw [hverdict, huntold, Results.countMetric_eq, ← hacts]
      rfl

theorem checkMetrics_spec (hs : s.Records answers.account) (q : RuleQuery) (metrics : List Text) :
    ∀ r x, ∃ w acts,
      told acts =
        metrics.filterMap (fun metric => Outcome.eventOf q metric (answers.verdict metric)) ∧
      checkMetrics s q metrics r x =
        ((metrics.all fun metric => (answers.verdict metric).isOk,
          r.extend 0 metrics.length (told acts)), ⟨w, x.acts ++ acts⟩) := by
  induction metrics with
  | nil =>
    intro r x
    refine ⟨x.world, [], rfl, ?_⟩
    rw [told_nil, List.length_nil, Results.extend_zero, List.append_nil]
    rfl
  | cons metric rest ih =>
    intro r x
    obtain ⟨w, acts, htold, hrun⟩ := checkMetric_spec hs q metric r x
    obtain ⟨w', more, hmore, hruns⟩ := ih (r.extend 0 1 (told acts)) ⟨w, x.acts ++ acts⟩
    refine ⟨w', acts ++ more, ?_, ?_⟩
    · rw [told_append, htold, hmore, filterMap_cons_toList]
    · simp only [checkMetrics, stateM_bind_apply, hrun, hruns]
      rw [Results.extend_extend, ← told_append, List.append_assoc, Nat.add_comm 1]
      rfl

theorem auditQuery_spec (hs : s.Records answers.account) (q : RuleQuery) (r : Results)
    (x : Watched W) :
    ∃ w acts, told acts = (answers.outcome q).events q ∧
      auditQuery s q r x =
        (r.extend (if (answers.outcome q).isComplete then 1 else 0) (answers.outcome q).metricCount
          (told acts), ⟨w, x.acts ++ acts⟩) := by
  cases hq : Query.parse q.query with
  | error message =>
    let e : Event := .diagnostic (.of q (.parse q.query message))
    have ho : answers.outcome q = .unreadable (.parse q.query message) := by
      simp only [Answers.outcome, hq]
    refine ⟨(s.tell e x).2.world, [.told e], ?_, ?_⟩
    · rw [ho]
      rfl
    · simp only [auditQuery, hq, stateM_bind_apply]
      rw [ho, Results.enter_eq, ← hs.tell]
      rfl
  | ok e =>
    have ho : answers.outcome q =
        .checked (e.metrics.map fun metric => (metric, answers.verdict metric)) := by
      simp only [Answers.outcome, hq]
    obtain ⟨w, acts, htold, hrun⟩ := checkMetrics_spec hs q e.metrics r x
    refine ⟨w, acts, ?_, ?_⟩
    · rw [ho, htold, Outcome.events, List.filterMap_map]
      rfl
    · have hcomplete : (answers.outcome q).isComplete =
          e.metrics.all fun metric => (answers.verdict metric).isOk := by
        rw [ho]
        exact List.all_map
      have hcount : (answers.outcome q).metricCount = e.metrics.length := by
        rw [ho]
        exact List.length_map _
      simp only [auditQuery, hq, stateM_bind_apply, hrun]
      rw [hcomplete, hcount]
      cases e.metrics.all fun metric => (answers.verdict metric).isOk with
      | false => rfl
      | true =>
        simp only [if_true, Results.countQuery_eq, Results.extend_extend, List.append_nil]
        rw [Nat.zero_add]
        rfl

theorem auditQueries_spec (hs : s.Records answers.account) (qs : List RuleQuery) :
    ∀ r x, ∃ w acts, told acts = (answers.outcomes qs).events ∧
      auditQueries s qs r x =
        (r.extend ((answers.outcomes qs).filter (·.2.isComplete)).length
          ((answers.outcomes qs).map (·.2.metricCount)).sum (told acts), ⟨w, x.acts ++ acts⟩) := by
  induction qs with
  | nil =>
    intro r x
    refine ⟨x.world, [], rfl, ?_⟩
    rw [List.append_nil]
    exact congrArg (·, x) r.extend_zero.symm
  | cons q rest ih =>
    intro r x
    obtain ⟨w, acts, htold, hrun⟩ := auditQuery_spec hs q r x
    obtain ⟨w', more, hmore, hruns⟩ := ih _ ⟨w, x.acts ++ acts⟩
    refine ⟨w', acts ++ more, ?_, ?_⟩
    · rw [told_append, htold, hmore]
      rfl
    · simp only [auditQueries, stateM_bind_apply, hrun]
      rw [hruns, Results.extend_extend, ← told_append, List.append_assoc]
      have hfilter : ((answers.outcomes (q :: rest)).filter (·.2.isComplete)).length =
          (if (answers.outcome q).isComplete then 1 else 0) +
            ((answers.outcomes rest).filter (·.2.isComplete)).length := by
        rw [Answers.outcomes, List.map_cons, List.filter_cons]
        split
        · rw [List.length_cons, Nat.add_comm]
          rfl
        · rw [Nat.zero_add]
          rfl
      rw [hfilter]
      rfl

/-- **What the naive audit comes to**: the results of what comes of asking, with a lookup for every
metric. -/
theorem run_spec (hs : s.Records answers.account) (qs : List RuleQuery) (x : Watched W) :
    ∃ w acts, told acts = (answers.outcomes qs).events ∧
      run s qs x =
        ((answers.outcomes qs).results ((answers.outcomes qs).map (·.2.metricCount)).sum 0,
          ⟨w, x.acts ++ acts⟩) := by
  obtain ⟨w, acts, htold, hrun⟩ := auditQueries_spec hs qs (.listing qs.length) x
  refine ⟨w, acts, htold, ?_⟩
  rw [run, hrun, htold, Results.extend_listing]
  exact List.length_map _

end

end Naive

/-! ### What an audit comes to -/

section

variable {W : Type} {answers : Answers} {s : Surroundings (StateM (Watched W))}

theorem Verdicts.AgreeWith.verdict {v : Verdicts} (h : v.AgreeWith answers) {metric : Text}
    {found : Bool} (hv : v.get? metric = some found) : answers.verdict metric = .ok found := by
  obtain ⟨n, hn, rfl⟩ := h metric found hv
  rw [Answers.verdict, hn]
  rfl

theorem Verdicts.AgreeWith.put {v : Verdicts} (h : v.AgreeWith answers) {metric : Text} {n : Nat}
    (hn : answers (Lookup.selector metric) = .ok n) :
    (v.put metric (decide (0 < n))).AgreeWith answers := by
  intro other found hv
  by_cases hm : other = metric
  · subst hm
    rw [get?_put_self] at hv
    exact ⟨n, hn, (Option.some.inj hv).symm⟩
  · rw [get?_put_of_ne v _ hm] at hv
    exact h other found hv

/-- With verdicts that agree with the server, the result of a call is what comes of asking, and the
verdicts still agree. -/
theorem Call.Legal.fixed {k : Call} (h : k.Legal answers.account)
    (hv : k.before.verdicts.AgreeWith answers) :
    k.result = answers.verdict k.metric ∧ k.after.verdicts.AgreeWith answers := by
  cases h with
  | known h => exact ⟨(hv.verdict h).symm, hv⟩
  | @failed metric c now acts e _ ha =>
    have he : answers (Lookup.selector metric) = .error e := ha.2.symm
    refine ⟨?_, hv⟩
    change _ = answers.verdict metric
    rw [Answers.verdict, he]
    rfl
  | @answered metric c now acts series _ ha =>
    have hn : answers (Lookup.selector metric) = .ok series.length := ha.2.symm
    have hfound : (!series.isEmpty) = decide (0 < series.length) := by cases series <;> rfl
    constructor
    · change Except.ok (!series.isEmpty) = answers.verdict metric
      rw [Answers.verdict, hn, hfound]
      rfl
    · change (c.verdicts.put metric (!series.isEmpty)).AgreeWith answers
      rw [hfound]
      exact hv.put hn

theorem Session.fixed (hs : s.Records answers.account) {c c' : Checker} {ks : List Call}
    (h : Session s c ks c') (hc : c.verdicts.AgreeWith answers) :
    ∀ k ∈ ks, k.result = answers.verdict k.metric := by
  induction h with
  | nil => exact List.forall_mem_nil _
  | cons first _ ih =>
    obtain ⟨hr, hafter⟩ := (first.legal hs).fixed hc
    exact List.forall_mem_cons.2 ⟨hr, ih hafter⟩

theorem Visit.outcome_fixed {v : Visit} (hv : v.Reads)
    (h : ∀ k ∈ v.calls, k.result = answers.verdict k.metric) :
    v.outcome = answers.outcome v.query := by
  obtain ⟨message, hf, hq⟩ | ⟨ks, e, hf, hq, hm⟩ := hv.cases
  · simp only [outcome, hf, Answers.outcome, hq]
  · simp only [calls, hf] at h
    simp only [outcome, hf, Answers.outcome, hq, ← hm, List.map_map, Outcome.checked.injEq]
    exact List.map_congr_left fun k hk => congrArg (Prod.mk k.metric) (h k hk)

/-- The outcomes of an audit are what comes of asking. -/
theorem Tour.outcomes_fixed (hs : s.Records answers.account) {qs : List RuleQuery}
    {c c' : Checker} {vs : List Visit} (h : Tour s qs c vs c') (hc : c.verdicts.AgreeWith answers) :
    outcomesOf vs = answers.outcomes qs := by
  have hresults := h.session.fixed hs hc
  rw [← h.queries, outcomesOf, Answers.outcomes, List.map_map]
  refine List.map_congr_left fun v hv => congrArg (Prod.mk v.query) ?_
  exact Visit.outcome_fixed (h.reads v hv) fun k hk => hresults k (List.mem_flatMap_of_mem hv hk)

end

/-- Results that are the same as those of a naive audit, with no more lookups. -/
structure Results.Refine (r naive : Results) : Prop where
  status : r.status = naive.status
  findings : r.findings = naive.findings
  diagnostics : r.diagnostics = naive.diagnostics
  rulesListed : r.counters.rulesListed = naive.counters.rulesListed
  rulesValidated : r.counters.rulesValidated = naive.counters.rulesValidated
  metricsChecked : r.counters.metricsChecked = naive.counters.metricsChecked
  backendCalls : r.counters.backendCalls ≤ naive.counters.backendCalls

/-- **An audit refines the naive one**: if the server does not change its mind, and what is known at
the start agrees with it, then an audit finds and tells what the naive audit does, with no more
lookups. -/
theorem Audit.run_refines_naive {W : Type} (s : Surroundings (StateM W)) (answers : Answers)
    (hs : s.Fixed answers) (c : Checker) (hc : c.verdicts.AgreeWith answers)
    (qs : List RuleQuery) (w w' : W) :
    let audit := run s.watched (pure (.ok qs)) c ⟨w, []⟩
    let naive := Naive.run s.watched qs ⟨w', []⟩
    audit.1 = (run s (pure (.ok qs)) c w).1 ∧
      ∃ r, audit.1.1 = .ok r ∧ r.Refine naive.1 ∧ told audit.2.acts = told naive.2.acts := by
  intro audit naive
  refine ⟨(run_mirrors s.watched_mirror (pure (.ok qs)) c ⟨w, []⟩).1, ?_⟩
  have hrec := hs.records
  have hsource : (pure (.ok qs) : StateM (Watched W) (Except Error (List RuleQuery))) ⟨w, []⟩ =
    (.ok qs, ⟨w, []⟩) := rfl
  obtain ⟨vs, c', w₁, ht, haudit⟩ := run_tour hrec hsource c
  obtain ⟨w₂, acts, hacts, hnaive⟩ := Naive.run_spec hrec qs ⟨w', []⟩
  -- both come to the outcomes of asking for everything, and so differ in nothing but the lookups
  have houtcomes := ht.outcomes_fixed hrec hc
  obtain ⟨hsum, hl, hh⟩ := ht.session.counted hrec
  have hcalls : c'.lookups - c.lookups ≤ ((outcomesOf vs).map (·.2.metricCount)).sum := by
    rw [metricCount_outcomesOf]
    omega
  have htold : told (vs.flatMap Visit.acts) = told acts := by
    rw [ht.told_acts hrec, houtcomes, hacts]
  rw [houtcomes] at haudit hcalls
  rw [show audit = _ from haudit, show naive = _ from hnaive]
  exact ⟨_, rfl, ⟨rfl, rfl, rfl, rfl, rfl, rfl, hcalls⟩, htold⟩

/-- Surroundings whose server has one series of one metric, and fails for every other. -/
def steady (metric : Text) : Surroundings (StateM Unit) where
  backend :=
    { ruleGroups := pure (.ok [])
      series := fun selector _ =>
        pure (if selector = Lookup.selector metric then .ok [[]] else .error (.backend "gone")) }
  now := pure .earliest
  note _ := pure ()
  tell _ := pure ()

theorem run_refines_naive_steady :
    let s := (steady ['u', 'p']).watched
    let queries : List RuleQuery := ["up", "down + up", "up +"].map fun text =>
      ⟨[], ['g'], ['r'], .alerting, text⟩
    let c : Checker := ⟨Verdicts.empty.put ['u', 'p'] true, 7, 3⟩
    let audit := Audit.run s (pure (.ok queries)) c ⟨(), []⟩
    let naive := Naive.run s queries ⟨(), []⟩
    ∃ r, audit.1.1 = .ok r ∧ r.Refine naive.1 ∧ told audit.2.acts = told naive.2.acts := by
  refine (Audit.run_refines_naive (steady ['u', 'p'])
    (fun selector =>
      if selector = Lookup.selector ['u', 'p'] then .ok 1 else .error (.backend "gone"))
    ?_ _ ?_ _ () ()).2
  · intro selector _ _
    exact apply_ite (Except.map List.length) (selector = Lookup.selector ['u', 'p']) _ _
  · intro metric found h
    by_cases hm : metric = ['u', 'p']
    · subst hm
      rw [Verdicts.get?_put_self] at h
      exact ⟨1, if_pos rfl, (Option.some.inj h).symm⟩
    · rw [Verdicts.get?_put_of_ne _ _ hm] at h
      nomatch h

end RuleAudit
