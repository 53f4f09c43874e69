import Mathlib.Data.List.Basic
import RuleAudit.Proofs.Run.Watch

/-!
What a watched audit consists of: a visit to each query, in which the checker is called for each
metric of it.

* `Call.Legal`: the three ways in which a call of a checker can go;
* `Session`: calls of a checker one after another;
* `Audit.run_tour`: an audit is a session with the calls for all metrics of all queries in order.
-/

namespace RuleAudit

/-! ### Told events -/

/-- The event of an act that tells one. -/
def Act.told? : Act → Option Event
  | told e => some e
  | _ => none

/-- The events that have been told. -/
def told (acts : List Act) : List Event := acts.filterMap Act.told?

@[simp] theorem told_nil : told [] = [] := rfl

@[simp] theorem told_append (acts more : List Act) : told (acts ++ more) = told acts ++ told more :=
  List.filterMap_append

@[simp] theorem told_map_told (es : List Event) : told (es.map .told) = es := by
  rw [told, List.filterMap_map]
  exact List.filterMap_some

theorem filterMap_cons_toList {α β : Type} (f : α → Option β) (a : α) (as : List α) :
    (a :: as).filterMap f = (f a).toList ++ as.filterMap f := by
  cases h : f a with
  | none => rw [List.filterMap_cons_none h]; rfl
  | some b => rw [List.filterMap_cons_some h]; rfl

/-! ### What is written down about lookups -/

/-- Which acts stand for a lookup with a given answer. -/
abbrev Account := Text → TimeRange → List Act → Except Error (List Series) → Prop

/-- The account of a server that is asked directly: one act for each lookup. -/
def asking : Account := fun selector range acts answer => acts = [.asked selector range answer]

section

variable {W : Type}

/-- The surroundings write down told events, and lookups as in the account, and nothing else. -/
structure Surroundings.Records (s : Surroundings (StateM (Watched W))) (account : Account) :
    Prop where
  series : ∀ selector range x, ∃ acts,
    (s.backend.series selector range x).2.acts = x.acts ++ acts ∧
      account selector range acts (s.backend.series selector range x).1
  now : ∀ x, (s.now x).2.acts = x.acts
  note : ∀ r x, (s.note r x).2.acts = x.acts
  tell : ∀ e x, (s.tell e x).2.acts = x.acts ++ [.told e]
  /-- No lookup tells events. -/
  untold : ∀ {selector range acts answer}, account selector range acts answer → told acts = []

theorem Surroundings.watched_records (s : Surroundings (StateM W)) : s.watched.Records asking where
  series _ _ _ := ⟨_, rfl, rfl⟩
  now _ := rfl
  note _ _ := rfl
  tell _ _ := rfl
  untold h := by rw [h]; rfl

end

/-! ### Calls -/

/-- A call of a checker: for which metric, the checker before and after, what has been written down
meanwhile, and the result. -/
structure Call where
  metric : Text
  before : Checker
  acts : List Act
  result : Except Error Bool
  after : Checker

namespace Call

/-- The ways in which a call can go. -/
inductive Legal (account : Account) : Call → Prop
  /-- There is a verdict, and it is the result. -/
  | known {metric : Text} {c : Checker} {found : Bool} (h : c.verdicts.get? metric = some found) :
    Legal account ⟨metric, c, [], .ok found, c.hit⟩
  /-- The server is asked and fails. -/
  | failed {metric : Text} {c : Checker} {now : Instant} {acts : List Act} {e : Error}
    (h : c.verdicts.get? metric = none)
    (ha : account (Lookup.selector metric) (.lifetimeUntil now) acts (.error e)) :
    Legal account ⟨metric, c, acts, .error (.metricLookup metric e), c.asked⟩
  /-- The server is asked and answers. -/
  | answered {metric : Text} {c : Checker} {now : Instant} {acts : List Act} {series : List Series}
    (h : c.verdicts.get? metric = none)
    (ha : account (Lookup.selector metric) (.lifetimeUntil now) acts (.ok series)) :
    Legal account
      ⟨metric, c, acts, .ok (!series.isEmpty), c.learned metric (!series.isEmpty)⟩

/-- The event that is told after a call for a metric of a query, if there is one. -/
def event? (q : RuleQuery) (k : Call) : Option Event := Outcome.eventOf q k.metric k.result

/-- What is written down about a call for a metric of a query, with the event after it. -/
def actsFor (q : RuleQuery) (k : Call) : List Act := k.acts ++ (k.event? q).toList.map .told

/-- The call happens when the checker is run in some world. -/
def Happens {W : Type} (s : Surroundings (StateM (Watched W))) (k : Call) : Prop :=
  ∃ x w, k.before.check s k.metric x = ((k.result, k.after), ⟨w, x.acts ++ k.acts⟩)

end Call

section

variable {W : Type} {s : Surroundings (StateM (Watched W))} {account : Account}

theorem Checker.lookUp_acts (hs : s.Records account) (metric : Text) (x : Watched W) :
    ∃ now acts, (Checker.lookUp s metric x).2.acts = x.acts ++ acts ∧
      account (Lookup.selector metric) (.lifetimeUntil now) acts (Checker.lookUp s metric x).1 := by
  obtain ⟨acts, hacts, ha⟩ :=
    hs.series (Lookup.selector metric) (.lifetimeUntil (s.now x).1) (s.now x).2
  rw [hs.now] at hacts
  exact ⟨(s.now x).1, acts, hacts, ha⟩

/-- What a checker does when it is called is a call. -/
theorem Checker.check_call (hs : s.Records account) (metric : Text) (c : Checker) (x : Watched W) :
    ∃ k : Call, k.metric = metric ∧ k.before = c ∧ k.Legal account ∧
      ∃ w, c.check s metric x = ((k.result, k.after), ⟨w, x.acts ++ k.acts⟩) := by
  cases hv : c.verdicts.get? metric with
  | some found =>
    refine ⟨_, rfl, rfl, .known hv, (s.note (.known metric found) x).2.world, ?_⟩
    have hx : c.check s metric x = ((.ok found, c.hit), (s.note (.known metric found) x).2) := by
      simp only [Checker.check, hv]
      rfl
    rw [hx, List.append_nil, ← hs.note (.known metric found) x]
  | none =>
    obtain ⟨now, acts, hacts, ha⟩ := lookUp_acts hs metric x
    rcases hl : Checker.lookUp s metric x with ⟨answer, y⟩
    rw [hl] at hacts ha
    cases answer with
    | error e =>
      refine ⟨_, rfl, rfl, .failed hv ha, y.world, ?_⟩
      have hx : c.check s metric x = ((.error (.metricLookup metric e), c.asked), y) := by
        simp only [Checker.check, hv, stateM_bind_apply, hl]
        rfl
      rw [hx, ← hacts]
    | ok series =>
      refine ⟨_, rfl, rfl, .answered hv ha, (s.note (.matched metric series.length) y).2.world, ?_⟩
      have hx : c.check s metric x = ((.ok (!series.isEmpty), c.learned metric (!series.isEmpty)),
          (s.note (.matched metric series.length) y).2) := by
        simp only [Checker.check, hv, stateM_bind_apply, hl]
        rfl
      rw [hx, ← hacts, ← hs.note (.matched metric series.length) y]

theorem Call.Happens.legal (hs : s.Records account) {k : Call} (h : k.Happens s) :
    k.Legal account := by
  obtain ⟨x, w, hx⟩ := h
  obtain ⟨j, hm, hb, hj, w', hx'⟩ := Checker.check_call hs k.metric k.before x
  rw [hx] at hx'
  injection hx' with hresult hworld
  injection hresult with hr ha
  injection hworld with _ hacts
  have hkj : k = j := by
    cases k
    cases j
    simp only [List.append_cancel_left_eq] at hm hb hr ha hacts
    rw [hm, hb, hr, ha, hacts]
  exact hkj ▸ hj

/-! ### Sessions -/

/-- Calls that happen one after another, from a first checker to a last. The world may change in any
way between them. -/
inductive Session (s : Surroundings (StateM (Watched W))) : Checker → List Call → Checker → Prop
  | nil (c : Checker) : Session s c [] c
  | cons {k : Call} {ks : List Call} {c : Checker} (first : k.Happens s)
    (rest : Session s k.after ks c) : Session s k.before (k :: ks) c

namespace Session

theorem append {c c' c'' : Checker} {ks ls : List Call} (h : Session s c ks c')
    (h' : Session s c' ls c'') : Session s c (ks ++ ls) c'' := by
  induction h with
  | nil => exact h'
  | cons first _ ih => exact .cons first (ih h')

theorem split {c c'' : Checker} {ks ls : List Call} (h : Session s c (ks ++ ls) c'') :
    ∃ c', Session s c ks c' ∧ Session s c' ls c'' := by
  induction ks generalizing c with
  | nil => exact ⟨c, .nil c, h⟩
  | cons k rest ih =>
    cases h with
    | cons first tail =>
      obtain ⟨c', hk, hl⟩ := ih tail
      exact ⟨c', .cons first hk, hl⟩

theorem single {k : Call} (h : k.Happens s) : Session s k.before [k] k.after := .cons h (.nil _)

/-- A call of a session happens between the calls before and the calls after it. -/
theorem around {c c' : Checker} {earlier later : List Call} {k : Call}
    (h : Session s c (earlier ++ k :: later) c') :
    Session s c earlier k.before ∧ k.Happens s ∧ Session s k.after later c' := by
  obtain ⟨c₁, hearlier, hlater⟩ := h.split
  cases hlater with
  | cons first rest => exact ⟨hearlier, first, rest⟩

theorem happens {c c' : Checker} {ks : List Call} (h : Session s c ks c') :
    ∀ k ∈ ks, k.Happens s := by
  intro k hk
  obtain ⟨earlier, later, rfl⟩ := List.append_of_mem hk
  exact h.around.2.1

end Session

/-! ### Visits -/

/-- What becomes of a query: calls for its metrics, or a message because it is no query. -/
structure Visit where
  query : RuleQuery
  found : Except Text (List Call)

namespace Visit

/-- The calls of a visit. -/
def calls (v : Visit) : List Call :=
  match v.found with
  | .error _ => []
  | .ok ks => ks

/-- The outcome of a visit. -/
def outcome (v : Visit) : Outcome :=
  match v.found with
  | .error message => .unreadable (.parse v.query.query message)
  | .ok ks => .checked (ks.map fun k => (k.metric, k.result))

/-- What is written down about a visit. -/
def acts (v : Visit) : List Act :=
  match v.found with
  | .error message => [.told (.diagnostic (.of v.query (.parse v.query.query message)))]
  | .ok ks => ks.flatMap (Call.actsFor v.query)

/-- The visit goes by the metrics of its query, in order. -/
def Reads (v : Visit) : Prop :=
  v.found.map (·.map Call.metric) = (Query.parse v.query.query).map Query.Expr.metrics

end Visit

/-- The metrics for which a query is checked: none if it is no query. -/
def RuleQuery.metrics (q : RuleQuery) : List Text :=
  match Query.parse q.query with
  | .error _ => []
  | .ok e => e.metrics

theorem Visit.Reads.cases {v : Visit} (h : v.Reads) :
    (∃ message, v.found = .error message ∧ Query.parse v.query.query = .error message) ∨
      ∃ ks e, v.found = .ok ks ∧ Query.parse v.query.query = .ok e ∧
        ks.map Call.metric = e.metrics := by
  rcases v with ⟨q, message | ks⟩ <;> rcases hq : Query.parse q.query with message' | e <;>
    rw [Reads, hq] at h
  · exact .inl ⟨message, rfl, congrArg Except.error (Except.error.inj h).symm⟩
  · nomatch h
  · nomatch h
  · exact .inr ⟨ks, e, rfl, rfl, Except.ok.inj h⟩

theorem Visit.Reads.metrics {v : Visit} (h : v.Reads) :
    v.calls.map Call.metric = v.query.metrics := by
  obtain ⟨message, hv, hq⟩ | ⟨ks, e, hv, hq, hm⟩ := h.cases
  · simp only [calls, hv, RuleQuery.metrics, hq]
    rfl
  · simp only [calls, hv, RuleQuery.metrics, hq]
    exact hm

/-- The visits of an audit with the outcomes. -/
def outcomesOf (vs : List Visit) : Outcomes := vs.map fun v => (v.query, v.outcome)

theorem Visit.metricCount_outcome (v : Visit) : v.outcome.metricCount = v.calls.length := by
  rcases v with ⟨q, message | ks⟩
  · rfl
  · exact List.length_map _

theorem metricCount_outcomesOf (vs : List Visit) :
    ((outcomesOf vs).map (·.2.metricCount)).sum = (vs.flatMap Visit.calls).length := by
  rw [outcomesOf, List.map_map, List.length_flatMap]
  exact congrArg List.sum (List.map_congr_left fun v _ => v.metricCount_outcome)

/-- Visits to queries in order, in which a first checker becomes a last. -/
structure Tour (s : Surroundings (StateM (Watched W))) (qs : List RuleQuery) (c : Checker)
    (vs : List Visit) (c' : Checker) : Prop where
  queries : vs.map Visit.query = qs
  reads : ∀ v ∈ vs, v.Reads
  session : Session s c (vs.flatMap Visit.calls) c'

theorem Tour.legal (hs : s.Records account) {qs : List RuleQuery} {c c' : Checker}
    {vs : List Visit} (h : Tour s qs c vs c') : ∀ v ∈ vs, ∀ k ∈ v.calls, k.Legal account :=
  fun v hv k hk => (h.session.happens k (List.mem_flatMap.2 ⟨v, hv, hk⟩)).legal hs

/-- The calls of a tour are for the metrics of the queries, in order. -/
theorem Tour.metrics {qs : List RuleQuery} {c c' : Checker} {vs : List Visit}
    (h : Tour s qs c vs c') :
    (vs.flatMap Visit.calls).map Call.metric = qs.flatMap RuleQuery.metrics := by
  rw [← h.queries, List.map_flatMap, List.flatMap_map]
  exact List.flatMap_congr fun v hv => (h.reads v hv).metrics

namespace Audit

theorem tell_acts (hs : s.Records account) (e : Option Event) (x : Watched W) :
    (e.forM s.tell x).2.acts = x.acts ++ e.toList.map .told := by
  cases e with
  | none => exact (List.append_nil _).symm
  | some e => exact hs.tell e x

theorem checkMetrics_calls (hs : s.Records account) (q : RuleQuery) (metrics : List Text) :
    ∀ c x, ∃ ks c' w, ks.map Call.metric = metrics ∧ Session s c ks c' ∧
      checkMetrics s q metrics c x =
        ((ks.map fun k => (k.metric, k.result), c'),
          ⟨w, x.acts ++ ks.flatMap (Call.actsFor q)⟩) := by
  induction metrics with
  | nil =>
    intro c x
    refine ⟨[], c, x.world, rfl, .nil c, ?_⟩
    rw [List.flatMap_nil, List.append_nil]
    rfl
  | cons metric rest ih =>
    intro c x
    obtain ⟨k, rfl, rfl, -, w, hk⟩ := Checker.check_call hs metric c x
    let y := ((k.event? q).forM s.tell ⟨w, x.acts ++ k.acts⟩).2
    obtain ⟨ks, c', w', rfl, hks, hrest⟩ := ih k.after y
    refine ⟨k :: ks, c', w', rfl, .cons ⟨x, w, hk⟩ hks, ?_⟩
    have hy : y.acts = x.acts ++ k.actsFor q := by
      rw [tell_acts hs, Call.actsFor, List.append_assoc]
    rw [hy, List.append_assoc] at hrest
    simp only [checkMetrics, stateM_bind_apply, hk]
    rw [show ((Outcome.eventOf q k.metric k.result).forM s.tell _).2 = y from rfl, hrest]
    rfl

theorem auditQuery_visit (hs : s.Records account) (q : RuleQuery) (c : Checker) (x : Watched W) :
    ∃ (v : Visit) (c' : Checker) (w : W), v.query = q ∧ v.Reads ∧ Session s c v.calls c' ∧
      auditQuery s q c x = ((v.outcome, c'), ⟨w, x.acts ++ v.acts⟩) := by
  cases hq : Query.parse q.query with
  | error message =>
    let d : Event := .diagnostic (.of q (.parse q.query message))
    refine ⟨⟨q, .error message⟩, c, (s.tell d x).2.world, rfl, ?_, .nil c, ?_⟩
    · rw [Visit.Reads, hq]
      rfl
    · simp only [auditQuery, hq, stateM_bind_apply, Visit.acts]
      rw [← hs.tell]
      rfl
  | ok e =>
    obtain ⟨ks, c', w, hm, hks, hrun⟩ := checkMetrics_calls hs q e.metrics c x
    refine ⟨⟨q, .ok ks⟩, c', w, rfl, ?_, hks, ?_⟩
    · rw [Visit.Reads, hq]
      exact congrArg Except.ok hm
    · simp only [auditQuery, hq, stateM_bind_apply, hrun]
      rfl

theorem auditQueries_tour (hs : s.Records account) (qs : List RuleQuery) :
    ∀ c x, ∃ vs c' w, Tour s qs c vs c' ∧
      auditQueries s qs c x = ((outcomesOf vs, c'), ⟨w, x.acts ++ vs.flatMap Visit.acts⟩) := by
  induction qs with
  | nil =>
    intro c x
    refine ⟨[], c, x.world, ⟨rfl, by simp, .nil c⟩, ?_⟩
    rw [List.flatMap_nil, List.append_nil]
    rfl
  | cons q rest ih =>
    intro c x
    obtain ⟨v, c₁, w, rfl, hv, hcalls, hrun⟩ := auditQuery_visit hs q c x
    obtain ⟨vs, c', w', ⟨rfl, hvs, hrest⟩, hruns⟩ := ih c₁ ⟨w, x.acts ++ v.acts⟩
    refine ⟨v :: vs, c', w', ⟨rfl, List.forall_mem_cons.2 ⟨hv, hvs⟩, ?_⟩, ?_⟩
    · exact hcalls.append hrest
    · rw [List.append_assoc] at hruns
      simp only [auditQueries, stateM_bind_apply, hrun, hruns]
      rfl

/-- What an audit does once its queries have been listed. -/
theorem run_listed {X : Type} (s : Surroundings (StateM X))
    {source : StateM X (Except Error (List RuleQuery))} {x y : X} {qs : List RuleQuery}
    (hx : source x = (.ok qs, y)) (c : Checker) :
    run s source c x =
      let audited := auditQueries s qs c y
      let r := audited.1.1.results (audited.1.2.lookups - c.lookups) (audited.1.2.hits - c.hits)
      ((.ok r, audited.1.2), (s.note (summary r) audited.2).2) := by
  simp only [run, auditAll, stateM_bind_apply, hx]
  rfl

/-- If the queries cannot be had, an audit ends with that, and its checker stays as it is. -/
theorem run_unlisted {X : Type} (s : Surroundings (StateM X))
    {source : StateM X (Except Error (List RuleQuery))} {x y : X} {e : Error}
    (hx : source x = (.error e, y)) (c : Checker) :
    run s source c x = ((.error e, c), y) := by
  simp only [run, stateM_bind_apply, hx]
  rfl

/-- **What an audit of queries does**: it visits them in order, and its results are those of the
outcomes of the visits. -/
theorem run_tour (hs : s.Records account)
    {source : StateM (Watched W) (Except Error (List RuleQuery))} {x y : Watched W}
    {qs : List RuleQuery} (hx : source x = (.ok qs, y)) (c : Checker) :
    ∃ vs c' w, Tour s qs c vs c' ∧
      run s source c x =
        ((.ok ((outcomesOf vs).results (c'.lookups - c.lookups) (c'.hits - c.hits)), c'),
          ⟨w, y.acts ++ vs.flatMap Visit.acts⟩) := by
  obtain ⟨vs, c', w, ht, hrun⟩ := auditQueries_tour hs qs c y
  let r : Results := (outcomesOf vs).results (c'.lookups - c.lookups) (c'.hits - c.hits)
  let z : Watched W := ⟨w, y.acts ++ vs.flatMap Visit.acts⟩
  refine ⟨vs, c', (s.note (summary r) z).2.world, ht, ?_⟩
  rw [run_listed s hx, hrun]
  exact congrArg (fun acts => ((Except.ok r, c'), Watched.mk _ acts)) (hs.note (summary r) z)

/-- An audit of the queries of a source, whatever that does. Without queries there are no visits. -/
theorem run_quietly (hs : s.Records account)
    (source : StateM W (Except Error (List RuleQuery))) (c : Checker) (x : Watched W) :
    let after := run s (quietly source) c x
    ∃ vs, Tour s ((source x.world).1.toOption.getD []) c vs after.1.2 ∧
      after.2.acts = x.acts ++ vs.flatMap Visit.acts ∧
      ∀ r, after.1.1 = .ok r →
        r = (outcomesOf vs).results (after.1.2.lookups - c.lookups) (after.1.2.hits - c.hits) := by
  intro after
  cases hx : (source x.world).1 with
  | error e =>
    rw [show after = _ from run_unlisted s (quietly_eq hx) c]
    exact ⟨[], ⟨rfl, by simp, .nil c⟩, (List.append_nil _).symm, fun _ h => nomatch h⟩
  | ok qs =>
    obtain ⟨vs, c', w, ht, hrun⟩ := run_tour hs (quietly_eq hx) c
    rw [show after = _ from hrun]
    exact ⟨vs, ht, rfl, fun _ h => (Except.ok.inj h).symm⟩

end Audit

/-! ### Where an act stands -/

theorem flatMap_eq_append_cons {α β : Type} {f : α → List β} {as : List α} {before after : List β}
    {b : β} (h : as.flatMap f = before ++ b :: after) :
    ∃ as₁ a as₂ bs₁ bs₂, as = as₁ ++ a :: as₂ ∧ f a = bs₁ ++ b :: bs₂ ∧
      before = as₁.flatMap f ++ bs₁ ∧ after = bs₂ ++ as₂.flatMap f := by
  induction as generalizing before with
  | nil => exact absurd h.symm (by simp)
  | cons a rest ih =>
    rw [List.flatMap_cons, List.append_eq_append_iff] at h
    obtain ⟨before', rfl, hrest⟩ | ⟨bs, ha, hafter⟩ := h
    · obtain ⟨as₁, a', as₂, bs₁, bs₂, rfl, ha', rfl, rfl⟩ := ih hrest
      exact ⟨a :: as₁, a', as₂, bs₁, bs₂, rfl, ha', by simp, rfl⟩
    · cases bs with
      | nil =>
        -- all of `before` belongs to `a`, and `b` is the first element of the rest
        obtain ⟨as₁, a', as₂, bs₁, bs₂, rfl, ha', hnil, rfl⟩ := @ih [] hafter.symm
        refine ⟨a :: as₁, a', as₂, bs₁, bs₂, rfl, ha', ?_, rfl⟩
        rw [List.flatMap_cons, List.append_assoc, ← hnil, ha, List.append_nil, List.append_nil]
      | cons b' bs' =>
        obtain ⟨rfl, rfl⟩ := List.cons.inj hafter
        exact ⟨[], a, rest, before, bs', rfl, ha, rfl, rfl⟩

/-- What is written down in the calls of visits is written down about the visits. -/
theorem Visit.calls_acts {v : Visit} {k : Call} (hk : k ∈ v.calls) : k.acts ⊆ v.acts := by
  intro a ha
  rcases v with ⟨q, message | ks⟩
  · nomatch hk
  · exact List.mem_flatMap.2 ⟨k, hk, List.mem_append_left _ ha⟩

/-- The event after a call is the only one that stands among what is written down for it. -/
theorem Call.event_of_actsFor {k : Call} {q : RuleQuery} {before after : List Act} {e : Event}
    (hk : told k.acts = []) (h : k.actsFor q = before ++ .told e :: after) :
    k.event? q = some e ∧ before = k.acts := by
  have hnot : Act.told e ∉ k.acts := by
    intro hmem
    have htold : e ∈ told k.acts := List.mem_filterMap.2 ⟨_, hmem, rfl⟩
    rw [hk] at htold
    nomatch htold
  rw [actsFor] at h
  cases he : k.event? q with
  | none =>
    rw [he] at h
    exact absurd (by simp [(List.append_nil _).symm.trans h]) hnot
  | some e' =>
    rw [he] at h
    obtain rfl | ⟨acts, a, rfl⟩ := List.eq_nil_or_concat after
    · obtain ⟨hacts, hlast⟩ := List.append_inj' h rfl
      exact ⟨congrArg some (Act.told.inj (List.cons.inj hlast).1), hacts.symm⟩
    · have h' : k.acts ++ [.told e'] = (before ++ .told e :: acts) ++ [a] := by
        simpa using h
      obtain ⟨hacts, -⟩ := List.append_inj' h' rfl
      exact absurd (by simp [hacts]) hnot

/-- A finding is told after a call that says that its metric is missing. -/
theorem Call.result_of_finding {k : Call} {q : RuleQuery} {f : Finding}
    (h : k.event? q = some (.finding f)) : k.result = .ok false ∧ f = .of q k.metric := by
  unfold event? at h
  rcases hr : k.result with e | found
  · rw [hr] at h
    nomatch h
  · rw [hr] at h
    cases found with
    | true => nomatch h
    | false => exact ⟨rfl, (Event.finding.inj (Option.some.inj h)).symm⟩

/-! ### What is told -/

theorem Call.Legal.untold (hs : s.Records account) {k : Call} (h : k.Legal account) :
    told k.acts = [] := by
  cases h with
  | known => rfl
  | failed _ ha => exact hs.untold ha
  | answered _ ha => exact hs.untold ha

theorem Visit.events_outcome (q : RuleQuery) (ks : List Call) :
    (Visit.mk q (.ok ks)).outcome.events q = ks.filterMap (Call.event? q) :=
  List.filterMap_map

theorem Visit.told_acts (hs : s.Records account) {v : Visit} (h : ∀ k ∈ v.calls, k.Happens s) :
    told v.acts = v.outcome.events v.query := by
  rcases v with ⟨q, message | ks⟩
  · rfl
  · have hcalls : ∀ k ∈ ks, k.Happens s := h
    rw [events_outcome]
    change told (ks.flatMap (Call.actsFor q)) = _
    clear h
    induction ks with
    | nil => rfl
    | cons k rest ih =>
      obtain ⟨hk, hrest⟩ := List.forall_mem_cons.1 hcalls
      rw [List.flatMap_cons, told_append, ih hrest, Call.actsFor, told_append,
        (hk.legal hs).untold hs, told_map_told, List.nil_append, filterMap_cons_toList]

/-- The events that an audit tells are those of its outcomes. -/
theorem Tour.told_acts (hs : s.Records account) {qs : List RuleQuery} {c c' : Checker}
    {vs : List Visit} (h : Tour s qs c vs c') :
    told (vs.flatMap Visit.acts) = (outcomesOf vs).events := by
  have hcalls := h.session.happens
  clear h
  induction vs with
  | nil => rfl
  | cons v rest ih =>
    rw [List.flatMap_cons, List.forall_mem_append] at hcalls
    rw [List.flatMap_cons, told_append, Visit.told_acts hs hcalls.1, ih hcalls.2]
    rfl

end

end RuleAudit
