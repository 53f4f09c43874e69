import Mathlib.Algebra.BigOperators.Group.List.Basic
import RuleAudit.Proofs.Run.Balance
import RuleAudit.Proofs.Run.Naive

/-!
Audits of the same rules in another order. Which rule pays for a lookup depends on the order; what
is found and how often the server is asked does not, as long as the server does not change its mind.

* `Answers.resultFrom`: what every call comes to, whatever has been called before;
* `Session.count_asked`: how many lookups the references to a metric take all together;
* `Audit.run_permuted`: audits of rearranged rules come to rearranged results.
-/

namespace RuleAudit

/-! ### What calls come to -/

namespace Answers

variable (answers : Answers)

/-- What a call comes to for somebody with verdicts: the verdict, or else what comes of asking. The
verdicts need not agree with the server. -/
def resultFrom (v : Verdicts) (metric : Text) : Except Error Bool :=
  match v.get? metric with
  | some found => .ok found
  | none => answers.verdict metric

/-- How many lookups it takes to call for a metric so many times: none if there is a verdict, one if
the server answers, and otherwise one each time. -/
def lookupCount (v : Verdicts) (metric : Text) (references : Nat) : Nat :=
  if (v.get? metric).isSome then 0
  else if (answers (Lookup.selector metric)).isOk then min references 1
  else references

/-- The verdict that remains about a metric when there have been calls for these. -/
def lastVerdict? (v : Verdicts) (metrics : List Text) (metric : Text) : Option Bool :=
  v.get? metric <|> if metric ∈ metrics then (answers.verdict metric).toOption else none

theorem verdict_of_ok {metric : Text} {n : Nat} (h : answers (Lookup.selector metric) = .ok n) :
    answers.verdict metric = .ok (decide (0 < n)) := by
  rw [verdict, h]
  rfl

theorem verdict_of_error {metric : Text} {e : Error}
    (h : answers (Lookup.selector metric) = .error e) :
    answers.verdict metric = .error (.metricLookup metric e) := by
  rw [verdict, h]
  rfl

end Answers

/-- The outcome of a query if calls come to these results. -/
def RuleQuery.outcomeBy (result : Text → Except Error Bool) (q : RuleQuery) : Outcome :=
  match Query.parse q.query with
  | .error message => .unreadable (.parse q.query message)
  | .ok e => .checked (e.metrics.map fun metric => (metric, result metric))

theorem Visit.outcome_by {result : Text → Except Error Bool} {v : Visit} (hv : v.Reads)
    (h : ∀ k ∈ v.calls, k.result = result k.metric) : v.outcome = v.query.outcomeBy result := by
  obtain ⟨message, hf, hq⟩ | ⟨ks, e, hf, hq, hm⟩ := hv.cases
  · simp only [outcome, hf, RuleQuery.outcomeBy, hq]
  · simp only [calls, hf] at h
    simp only [outcome, hf, RuleQuery.outcomeBy, hq, ← hm, List.map_map, Outcome.checked.injEq]
    exact List.map_congr_left fun k hk => congrArg (Prod.mk k.metric) (h k hk)

/-- The call is a lookup: there is no verdict yet. -/
def Call.isLookup (k : Call) : Bool := (k.before.verdicts.get? k.metric).isNone

/-- The metrics that have been looked up in calls, in order. -/
def askedIn (ks : List Call) : List Text := (ks.filter Call.isLookup).map Call.metric

section

variable {W : Type} {answers : Answers} {s : Surroundings (StateM (Watched W))}

namespace Call.Legal

/-- In a call, nothing changes but that the verdict about its metric may be learned. -/
theorem get?_after {account : Account} {k : Call} (h : k.Legal account) {other : Text}
    (hne : other ≠ k.metric) : k.after.verdicts.get? other = k.before.verdicts.get? other := by
  cases h with
  | known => rfl
  | failed => rfl
  | answered => exact Verdicts.get?_put_of_ne _ _ hne

/-- A call for a metric without a verdict comes to what the server says, and a verdict remains if it
says one. -/
theorem of_lookup {k : Call} (h : k.Legal answers.account) (hk : k.isLookup = true) :
    k.result = answers.verdict k.metric ∧
      k.after.verdicts.get? k.metric = (answers.verdict k.metric).toOption := by
  rw [isLookup, Option.isNone_iff_eq_none] at hk
  cases h with
  | known hv => exact absurd (hk.symm.trans hv) (by simp)
  | @failed metric c now acts e _ ha =>
    have he : answers.verdict metric = .error (.metricLookup metric e) :=
      answers.verdict_of_error ha.2.symm
    change _ = answers.verdict metric ∧ _ = (answers.verdict metric).toOption
    rw [he]
    exact ⟨rfl, hk⟩
  | @answered metric c now acts series _ ha =>
    have hn : answers.verdict metric = .ok (decide (0 < series.length)) :=
      answers.verdict_of_ok ha.2.symm
    have hfound : (!series.isEmpty) = decide (0 < series.length) := by cases series <;> rfl
    change Except.ok (!series.isEmpty) = answers.verdict metric ∧
      (c.verdicts.put metric (!series.isEmpty)).get? metric = (answers.verdict metric).toOption
    rw [hn, hfound, Verdicts.get?_put_self]
    exact ⟨rfl, rfl⟩

/-- A call for a metric with a verdict comes to it and leaves it. -/
theorem of_hit {k : Call} (h : k.Legal answers.account) (hk : k.isLookup = false) :
    ∃ found, k.before.verdicts.get? k.metric = some found ∧ k.result = .ok found ∧
      k.after.verdicts.get? k.metric = some found := by
  obtain ⟨found, hv⟩ := Option.isSome_iff_exists.1 (Option.isNone_eq_false_iff.1 hk)
  exact ⟨found, hv, (h.of_known hv).2, h.within _ _ hv⟩

theorem result_eq {k : Call} (h : k.Legal answers.account) :
    k.result = answers.resultFrom k.before.verdicts k.metric := by
  cases hk : k.isLookup with
  | true =>
    rw [(h.of_lookup hk).1, Answers.resultFrom, Option.isNone_iff_eq_none.1 hk]
  | false =>
    obtain ⟨found, hv, hr, -⟩ := h.of_hit hk
    rw [hr, Answers.resultFrom, hv]

/-- What further calls come to is the same after a call as before it. -/
theorem resultFrom_after {k : Call} (h : k.Legal answers.account) (metric : Text) :
    answers.resultFrom k.after.verdicts metric = answers.resultFrom k.before.verdicts metric := by
  by_cases hm : metric = k.metric
  · subst hm
    rw [← h.result_eq, Answers.resultFrom]
    cases hk : k.isLookup with
    | true =>
      obtain ⟨hr, hafter⟩ := h.of_lookup hk
      rw [hafter, hr]
      cases answers.verdict k.metric <;> rfl
    | false =>
      obtain ⟨found, -, hr, hafter⟩ := h.of_hit hk
      rw [hafter, hr]
  · rw [Answers.resultFrom, h.get?_after hm, Answers.resultFrom]

end Call.Legal

/-- **What calls come to** does not depend on the calls before. -/
theorem Session.result_eq (hs : s.Records answers.account) {c c' : Checker} {ks : List Call}
    (h : Session s c ks c') : ∀ k ∈ ks, k.result = answers.resultFrom c.verdicts k.metric := by
  induction h with
  | nil => exact List.forall_mem_nil _
  | cons first _ ih =>
    have hlegal := first.legal hs
    refine List.forall_mem_cons.2 ⟨hlegal.result_eq, fun k hk => ?_⟩
    rw [ih k hk, hlegal.resultFrom_after]

/-! ### How often the server is asked -/

theorem askedIn_cons (k : Call) (ks : List Call) :
    askedIn (k :: ks) = if k.isLookup then k.metric :: askedIn ks else askedIn ks := by
  unfold askedIn
  rw [List.filter_cons]
  split <;> rfl

/-- **How often the server is asked for a metric** depends on what is known at the start and on the
number of references, and not on where these stand. -/
theorem Session.count_asked (hs : s.Records answers.account) {c c' : Checker} {ks : List Call}
    (h : Session s c ks c') (metric : Text) :
    (askedIn ks).count metric =
      answers.lookupCount c.verdicts metric ((ks.map Call.metric).count metric) := by
  induction h with
  | nil c => simp [askedIn, Answers.lookupCount]
  | @cons k ks _ first _ ih =>
    have hlegal := first.legal hs
    rw [askedIn_cons, List.map_cons, List.count_cons]
    by_cases hm : metric = k.metric
    · subst hm
      cases hk : k.isLookup with
      | false =>
        -- there is a verdict before the call, and so there is one after it
        obtain ⟨found, hv, -, hafter⟩ := hlegal.of_hit hk
        rw [if_neg Bool.false_ne_true, ih]
        simp [Answers.lookupCount, hv, hafter]
      | true =>
        have hv := Option.isNone_iff_eq_none.1 hk
        have hafter := (hlegal.of_lookup hk).2
        rw [if_pos rfl, List.count_cons_self, ih]
        cases ha : answers (Lookup.selector k.metric) with
        | error e =>
          rw [answers.verdict_of_error ha] at hafter
          simp [Answers.lookupCount, hv, hafter, ha, Except.toOption, Except.isOk, Except.toBool]
        | ok n =>
          rw [answers.verdict_of_ok ha] at hafter
          simp [Answers.lookupCount, hv, hafter, ha, Except.toOption, Except.isOk, Except.toBool]
    · have hne : k.metric ≠ metric := Ne.symm hm
      have hcount : (if k.isLookup then k.metric :: askedIn ks else askedIn ks).count metric =
          (askedIn ks).count metric := by
        split
        · exact List.count_cons_of_ne hne
        · rfl
      rw [hcount, ih]
      simp [Answers.lookupCount, hlegal.get?_after hm, hne]

/-- **Which verdicts remain** depends on what is known at the start and on which metrics have been
called for. -/
theorem Session.lastVerdict_eq (hs : s.Records answers.account) {c c' : Checker} {ks : List Call}
    (h : Session s c ks c') (metric : Text) :
    c'.verdicts.get? metric = answers.lastVerdict? c.verdicts (ks.map Call.metric) metric := by
  induction h with
  | nil c => simp [Answers.lastVerdict?]
  | @cons k ks _ first _ ih =>
    have hlegal := first.legal hs
    rw [ih, Answers.lastVerdict?, Answers.lastVerdict?, List.map_cons]
    by_cases hm : metric = k.metric
    · subst hm
      rw [if_pos List.mem_cons_self]
      cases hk : k.isLookup with
      | false =>
        obtain ⟨found, hv, -, hafter⟩ := hlegal.of_hit hk
        rw [hv, hafter]
        rfl
      | true =>
        rw [(hlegal.of_lookup hk).2, Option.isNone_iff_eq_none.1 hk]
        split <;> cases answers.verdict k.metric <;> rfl
    · rw [hlegal.get?_after hm]
      simp [hm]

end

/-! ### Lookups apart from their time -/

/-- What a lookup asks for and what the server answers, whenever that is: the selector, the start of
the time that counts, and the number of series or the failure. -/
def Act.inquiry? : Act → Option (Text × Instant × Except Error Nat)
  | asked selector range answer => some (selector, range.start, answer.map List.length)
  | _ => none

/-- The lookups among acts, whenever they have been made. -/
def inquiries (acts : List Act) : List (Text × Instant × Except Error Nat) :=
  acts.filterMap Act.inquiry?

theorem inquiries_filter (acts : List Act) :
    inquiries (acts.filter Act.isLookup) = inquiries acts := by
  rw [inquiries, inquiries, List.filterMap_filter]
  refine List.filterMap_congr fun a _ => ?_
  cases a <;> rfl

theorem length_inquiries (acts : List Act) :
    (inquiries acts).length = acts.countP Act.isLookup := by
  rw [inquiries, List.length_filterMap_eq_countP]
  refine List.countP_congr fun a _ => ?_
  cases a <;> simp [Act.inquiry?, Act.isLookup]

section

variable {W : Type} {answers : Answers} {s : Surroundings (StateM (Watched W))}

theorem Call.Legal.inquiries_acts {k : Call} (h : k.Legal answers.account) :
    inquiries k.acts =
      if k.isLookup then
        [(Lookup.selector k.metric, .earliest, answers (Lookup.selector k.metric))]
      else [] := by
  cases h with
  | known hv =>
    rw [isLookup, hv]
    rfl
  | @failed metric c now acts e hv ha =>
    rw [isLookup, hv]
    change inquiries acts = [(_, _, answers (Lookup.selector metric))]
    rw [← ha.2, ha.1]
    rfl
  | @answered metric c now acts series hv ha =>
    rw [isLookup, hv]
    change inquiries acts = [(_, _, answers (Lookup.selector metric))]
    rw [← ha.2, ha.1]
    rfl

/-- The lookups in calls are those of the metrics that have been looked up. -/
theorem Session.inquiries_acts (hs : s.Records answers.account) {c c' : Checker} {ks : List Call}
    (h : Session s c ks c') :
    inquiries (ks.flatMap Call.acts) = (askedIn ks).map fun metric =>
      (Lookup.selector metric, .earliest, answers (Lookup.selector metric)) := by
  induction h with
  | nil => rfl
  | @cons k ks _ first _ ih =>
    rw [List.flatMap_cons, inquiries, List.filterMap_append, ← inquiries, ← inquiries, ih,
      (first.legal hs).inquiries_acts, askedIn_cons]
    split <;> rfl

/-! ### Rearranged audits -/

theorem Session.askedIn_perm (hs : s.Records answers.account) {c c₁ c₂ : Checker}
    {ks ls : List Call} (h₁ : Session s c ks c₁) (h₂ : Session s c ls c₂)
    (h : (ks.map Call.metric).Perm (ls.map Call.metric)) : (askedIn ks).Perm (askedIn ls) := by
  refine List.perm_iff_count.2 fun metric => ?_
  rw [h₁.count_asked hs, h₂.count_asked hs, h.count_eq]

theorem Session.get?_of_perm (hs : s.Records answers.account) {c c₁ c₂ : Checker}
    {ks ls : List Call} (h₁ : Session s c ks c₁) (h₂ : Session s c ls c₂)
    (h : (ks.map Call.metric).Perm (ls.map Call.metric)) (metric : Text) :
    c₁.verdicts.get? metric = c₂.verdicts.get? metric := by
  simp only [h₁.lastVerdict_eq hs, h₂.lastVerdict_eq hs, Answers.lastVerdict?, h.mem_iff]

/-- The outcomes of a tour are those that its queries have by themselves. -/
theorem Tour.outcomes_eq (hs : s.Records answers.account) {qs : List RuleQuery} {c c' : Checker}
    {vs : List Visit} (h : Tour s qs c vs c') :
    outcomesOf vs = qs.map fun q => (q, q.outcomeBy (answers.resultFrom c.verdicts)) := by
  have hresults := h.session.result_eq hs
  rw [← h.queries, outcomesOf, List.map_map]
  refine List.map_congr_left fun v hv => congrArg (Prod.mk v.query) ?_
  exact Visit.outcome_by (h.reads v hv) fun k hk => hresults k (List.mem_flatMap_of_mem hv hk)

theorem Tour.metrics_perm {qs qs' : List RuleQuery} {c c₁ c₂ : Checker} {vs us : List Visit}
    (h₁ : Tour s qs c vs c₁) (h₂ : Tour s qs' c us c₂) (h : qs.Perm qs') :
    ((vs.flatMap Visit.calls).map Call.metric).Perm ((us.flatMap Visit.calls).map Call.metric) := by
  rw [h₁.metrics, h₂.metrics]
  exact h.flatMap_right _

end

/-- The same results in another order. -/
structure Results.Rearranges (r r' : Results) : Prop where
  findings : r.findings.Perm r'.findings
  diagnostics : r.diagnostics.Perm r'.diagnostics
  status : r.status = r'.status
  counters : r.counters = r'.counters

theorem Outcomes.results_perm {os os' : Outcomes} (h : os.Perm os') (lookups hits : Nat) :
    (os.results lookups hits).Rearranges (os'.results lookups hits) := by
  have hevents : os.events.Perm os'.events := h.flatMap_right _
  have hfindings := hevents.filterMap Event.finding?
  have hdiagnostics := hevents.filterMap Event.diagnostic?
  refine ⟨hfindings, hdiagnostics, ?_, ?_⟩
  · exact congrArg₂ Status.derive hfindings.length_eq hdiagnostics.length_eq
  · simp only [results, Counters.mk.injEq, and_true]
    exact ⟨h.length_eq, (h.filter _).length_eq, (h.map _).sum_eq⟩

/-- **The order of rules makes no difference**: if the server does not change its mind, audits of
the same rules in two orders, which start with the same checker, come to the same results but for
their order. The lookups are the same but for their order, too, and the same verdicts remain. -/
theorem Audit.run_permuted {W : Type} (s : Surroundings (StateM W)) (answers : Answers)
    (hs : s.Fixed answers) (c : Checker) {qs qs' : List RuleQuery} (h : qs.Perm qs') (w w' : W) :
    let one := run s.watched (pure (.ok qs)) c ⟨w, []⟩
    let other := run s.watched (pure (.ok qs')) c ⟨w', []⟩
    one.1 = (run s (pure (.ok qs)) c w).1 ∧ other.1 = (run s (pure (.ok qs')) c w').1 ∧
      (∃ r r', one.1.1 = .ok r ∧ other.1.1 = .ok r' ∧ r.Rearranges r') ∧
      (inquiries one.2.acts).Perm (inquiries other.2.acts) ∧
      ∀ metric, one.1.2.verdicts.get? metric = other.1.2.verdicts.get? metric := by
  intro one other
  have hfixed := hs.records
  have hasking := s.watched_records
  have hlist (qs : List RuleQuery) (w : W) :
      (pure (.ok qs) : StateM (Watched W) (Except Error (List RuleQuery))) ⟨w, []⟩ =
        (.ok qs, ⟨w, []⟩) := rfl
  obtain ⟨vs, c₁, w₁, ht₁, hrun₁⟩ := run_tour hfixed (hlist qs w) c
  obtain ⟨us, c₂, w₂, ht₂, hrun₂⟩ := run_tour hfixed (hlist qs' w') c
  have hmetrics := ht₁.metrics_perm ht₂ h
  -- the lookups are those of the metrics that have been asked for, and these are rearranged
  have hinquiries : (inquiries (vs.flatMap Visit.acts)).Perm (inquiries (us.flatMap Visit.acts)) := by
    rw [← inquiries_filter, ht₁.filter_acts hasking, ht₁.session.inquiries_acts hfixed,
      ← inquiries_filter, ht₂.filter_acts hasking, ht₂.session.inquiries_acts hfixed]
    exact (ht₁.session.askedIn_perm hfixed ht₂.session hmetrics).map _
  have hlookups : c₁.lookups = c₂.lookups := by
    rw [ht₁.lookups hasking, ht₂.lookups hasking, ← length_inquiries, ← length_inquiries,
      hinquiries.length_eq]
  have hhits : c₁.hits = c₂.hits := by
    have hsum₁ := (ht₁.session.counted hfixed).1
    have hsum₂ := (ht₂.session.counted hfixed).1
    have hlength := hmetrics.length_eq
    rw [List.length_map, List.length_map] at hlength
    omega
  refine ⟨(run_mirrors s.watched_mirror (pure (.ok qs)) c ⟨w, []⟩).1,
    (run_mirrors s.watched_mirror (pure (.ok qs')) c ⟨w', []⟩).1, ?_⟩
  rw [show one = _ from hrun₁, show other = _ from hrun₂]
  refine ⟨⟨_, _, rfl, rfl, ?_⟩, hinquiries, ht₁.session.get?_of_perm hfixed ht₂.session hmetrics⟩
  rw [ht₁.outcomes_eq hfixed, ht₂.outcomes_eq hfixed, hlookups, hhits]
  exact Outcomes.results_perm (h.map _) _ _

theorem run_permuted_steady :
    let s := (steady ['u', 'p']).watched
    let queries := alerts ["up + down", "up +", "down", "other + up"]
    let c : Checker := ⟨Verdicts.empty.put ['o', 't', 'h', 'e', 'r'] false, 7, 3⟩
    let one := Audit.run s (pure (.ok queries)) c ⟨(), []⟩
    let other := Audit.run s (pure (.ok queries.reverse)) c ⟨(), []⟩
    (∃ r r', one.1.1 = .ok r ∧ other.1.1 = .ok r' ∧ r.Rearranges r') ∧
      (inquiries one.2.acts).Perm (inquiries other.2.acts) ∧
      ∀ metric, one.1.2.verdicts.get? metric = other.1.2.verdicts.get? metric := by
  intro s queries c
  refine (Audit.run_permuted (steady ['u', 'p'])
    (fun selector =>
      if selector = Lookup.selector ['u', 'p'] then .ok 1 else .error (.backend "gone"))
    ?_ c (List.reverse_perm queries).symm () ()).2.2
  intro selector _ _
  exact apply_ite (Except.map List.length) (selector = Lookup.selector ['u', 'p']) _ _

end RuleAudit
