import RuleAudit.Proofs.Run.Session

/-!
What a checker knows in the course of a session, when it asks the server and when it does not.

* `Session.within`: verdicts are never changed or taken back;
* `Session.origin`: a new verdict comes from a lookup that has been answered;
* `Session.memoised`: the discipline of memoisation, for calls in any order and for whole audits.
-/

namespace RuleAudit

/-! ### Verdicts that stay -/

/-- All verdicts stand among others, too. -/
def Verdicts.Within (v u : Verdicts) : Prop :=
  ∀ metric found, v.get? metric = some found → u.get? metric = some found

namespace Verdicts.Within

theorem refl (v : Verdicts) : v.Within v := fun _ _ h => h

theorem trans {v u t : Verdicts} (h : v.Within u) (h' : u.Within t) : v.Within t :=
  fun metric found hv => h' metric found (h metric found hv)

theorem put {v : Verdicts} {metric : Text} (h : v.get? metric = none) (found : Bool) :
    v.Within (v.put metric found) := by
  intro other b hb
  have hne : other ≠ metric := by
    rintro rfl
    rw [h] at hb
    nomatch hb
  rw [get?_put_of_ne v found hne, hb]

end Verdicts.Within

section

variable {W : Type} {s : Surroundings (StateM (Watched W))} {account : Account}

namespace Call

/-- The server has been asked for the metric and has given these series. -/
def Answered (account : Account) (k : Call) (series : List Series) : Prop :=
  ∃ range, account (Lookup.selector k.metric) range k.acts (.ok series)

/-- The server has been asked for the metric and has failed. -/
def Refused (account : Account) (k : Call) (e : Error) : Prop :=
  ∃ range, account (Lookup.selector k.metric) range k.acts (.error e)

theorem Legal.within {k : Call} (h : k.Legal account) :
    k.before.verdicts.Within k.after.verdicts := by
  cases h with
  | known => exact .refl _
  | failed => exact .refl _
  | answered hv => exact .put hv _

/-- A new verdict is about the metric of the call, and the server has been asked for it. -/
theorem Legal.origin {k : Call} (h : k.Legal account) {metric : Text} {found : Bool}
    (hbefore : k.before.verdicts.get? metric = none)
    (hafter : k.after.verdicts.get? metric = some found) :
    k.metric = metric ∧ ∃ series, k.Answered account series ∧ found = !series.isEmpty := by
  cases h with
  | known => exact absurd (hbefore.symm.trans hafter) (by simp)
  | failed => exact absurd (hbefore.symm.trans hafter) (by simp)
  | @answered name c now acts series hv ha =>
    by_cases hm : metric = name
    · subst hm
      have hf : (c.verdicts.put metric (!series.isEmpty)).get? metric = some found := hafter
      rw [Verdicts.get?_put_self] at hf
      exact ⟨rfl, series, ⟨_, ha⟩, (Option.some.inj hf).symm⟩
    · have hf : (c.verdicts.put name (!series.isEmpty)).get? metric = some found := hafter
      rw [Verdicts.get?_put_of_ne _ _ hm] at hf
      exact absurd (hbefore.symm.trans hf) (by simp)

/-- A call that succeeds leaves its result as the verdict. -/
theorem Legal.verdict {k : Call} (h : k.Legal account) {found : Bool} (hr : k.result = .ok found) :
    k.after.verdicts.get? k.metric = some found := by
  cases h with
  | known hv => exact (Except.ok.inj hr) ▸ hv
  | failed => nomatch hr
  | answered hv => exact (Except.ok.inj hr) ▸ Verdicts.get?_put_self _ _ _

/-- A call for a metric with a verdict gives it, and nothing else happens. -/
theorem Legal.of_known {k : Call} (h : k.Legal account) {found : Bool}
    (hv : k.before.verdicts.get? k.metric = some found) : k.acts = [] ∧ k.result = .ok found := by
  cases h with
  | known hv' => exact ⟨rfl, congrArg Except.ok (Option.some.inj (hv'.symm.trans hv))⟩
  | failed hv' => exact absurd (hv'.symm.trans hv) (by simp)
  | answered hv' => exact absurd (hv'.symm.trans hv) (by simp)

/-- In a call that fails, the server has failed, and nothing is learned. -/
theorem Legal.of_error {k : Call} (h : k.Legal account) {e : Error} (hr : k.result = .error e) :
    ∃ cause, k.Refused account cause ∧ e = .metricLookup k.metric cause ∧
      k.before.verdicts.get? k.metric = none ∧ k.after.verdicts = k.before.verdicts := by
  cases h with
  | known => nomatch hr
  | failed hv ha => exact ⟨_, ⟨_, ha⟩, (Except.error.inj hr).symm, hv, rfl⟩
  | answered => nomatch hr

/-- A call for a metric without a verdict fails if the server does not answer. -/
theorem Legal.of_unanswered {k : Call} (h : k.Legal account)
    (hv : k.before.verdicts.get? k.metric = none)
    (hnot : ∀ series, ¬ k.Answered account series) :
    ∃ cause, k.result = .error (.metricLookup k.metric cause) ∧
      k.after.verdicts = k.before.verdicts := by
  cases h with
  | known hv' => exact absurd (hv'.symm.trans hv) (by simp)
  | failed => exact ⟨_, rfl, rfl⟩
  | answered _ ha => exact absurd ⟨_, ha⟩ (hnot _)

/-- Every call is counted once. -/
theorem Legal.counted {k : Call} (h : k.Legal account) :
    k.after.lookups + k.after.hits = k.before.lookups + k.before.hits + 1 ∧
      k.before.lookups ≤ k.after.lookups ∧ k.before.hits ≤ k.after.hits := by
  cases h with
  | @known _ c _ _ => exact ⟨rfl, Nat.le_refl c.lookups, Nat.le_succ c.hits⟩
  | @failed _ c _ _ _ _ _ =>
    exact ⟨Nat.add_right_comm c.lookups 1 c.hits, Nat.le_succ c.lookups, Nat.le_refl c.hits⟩
  | @answered _ c _ _ _ _ _ =>
    exact ⟨Nat.add_right_comm c.lookups 1 c.hits, Nat.le_succ c.lookups, Nat.le_refl c.hits⟩

end Call

namespace Session

/-- **Verdicts stay**: what is known before calls is known after them. -/
theorem within (hs : s.Records account) {c c' : Checker} {ks : List Call} (h : Session s c ks c') :
    c.verdicts.Within c'.verdicts := by
  induction h with
  | nil => exact .refl _
  | cons first _ ih => exact (first.legal hs).within.trans ih

/-- **Where verdicts come from**: a new one is what the server has answered in one of the calls. -/
theorem origin (hs : s.Records account) {c c' : Checker} {ks : List Call} (h : Session s c ks c')
    {metric : Text} {found : Bool} (hc : c.verdicts.get? metric = none)
    (hc' : c'.verdicts.get? metric = some found) :
    ∃ k ∈ ks, k.metric = metric ∧
      ∃ series, k.Answered account series ∧ found = !series.isEmpty := by
  induction h with
  | nil => exact absurd (hc.symm.trans hc') (by simp)
  | @cons k ks _ first rest ih =>
    -- a verdict after the first call is the last one, too, since verdicts stay
    cases hk : k.after.verdicts.get? metric with
    | none =>
      obtain ⟨j, hj, hjk⟩ := ih hk hc'
      exact ⟨j, List.mem_cons_of_mem _ hj, hjk⟩
    | some b =>
      obtain rfl : b = found := Option.some.inj ((rest.within hs _ _ hk).symm.trans hc')
      exact ⟨k, List.mem_cons_self, (first.legal hs).origin hc hk⟩

/-- A call that succeeds rests on what the server has answered in it or in a call before it. -/
theorem grounds (hs : s.Records account) {c c' : Checker} {earlier later : List Call} {k : Call}
    (h : Session s c (earlier ++ k :: later) c') (hc : c.verdicts.get? k.metric = none)
    {found : Bool} (hr : k.result = .ok found) :
    ∃ j ∈ earlier ++ [k], j.metric = k.metric ∧
      ∃ series, j.Answered account series ∧ found = !series.isEmpty := by
  obtain ⟨hearlier, hk, -⟩ := h.around
  exact (hearlier.append (.single hk)).origin hs hc ((hk.legal hs).verdict hr)

theorem counted (hs : s.Records account) {c c' : Checker} {ks : List Call} (h : Session s c ks c') :
    c'.lookups + c'.hits = c.lookups + c.hits + ks.length ∧
      c.lookups ≤ c'.lookups ∧ c.hits ≤ c'.hits := by
  induction h with
  | nil c => exact ⟨rfl, Nat.le_refl _, Nat.le_refl _⟩
  | cons first _ ih =>
    obtain ⟨hsum, hl, hh⟩ := (first.legal hs).counted
    obtain ⟨hsum', hl', hh'⟩ := ih
    rw [List.length_cons]
    exact ⟨by omega, Nat.le_trans hl hl', Nat.le_trans hh hh'⟩

end Session

end

/-! ### The discipline of memoisation -/

/-- The act is a lookup that the server has received. -/
def Act.isLookup : Act → Bool
  | asked .. => true
  | _ => false

/-- **The discipline of memoisation**, for calls that start with the verdicts `v` and end with the
checker `c`. -/
structure Memoised (v : Verdicts) (ks : List Call) (c : Checker) : Prop where
  /-- A metric with a verdict from the start is never asked for, and every call gives that
  verdict. -/
  known : ∀ k ∈ ks, ∀ found, v.get? k.metric = some found → k.acts = [] ∧ k.result = .ok found
  /-- Any other metric is asked for once in every call until the server has answered, and the result
  is what the server says then. -/
  asks : ∀ {earlier k later}, ks = earlier ++ k :: later → v.get? k.metric = none →
    (∀ j ∈ earlier, j.metric = k.metric → ∀ series, ¬ j.Answered asking series) →
    ∃ range answer, k.acts = [.asked (Lookup.selector k.metric) range answer] ∧
      k.result =
        (answer.map fun series => !series.isEmpty).mapError (Error.metricLookup k.metric)
  /-- Once the server has answered, the metric is never asked for again, and every call gives the
  same verdict. -/
  settled : ∀ {earlier k later}, ks = earlier ++ k :: later → ∀ series, k.Answered asking series →
    k.result = .ok (!series.isEmpty) ∧
      ∀ j ∈ later, j.metric = k.metric → j.acts = [] ∧ j.result = .ok (!series.isEmpty)
  /-- A call fails only if the server does. The failure names the metric and has the server's error
  as its cause, and no verdict comes of it. -/
  failure : ∀ k ∈ ks, ∀ e, k.result = .error e →
    ∃ cause, k.Refused asking cause ∧ e = .metricLookup k.metric cause ∧
      e.code = "METRIC_LOOKUP_FAILED" ∧ k.after.verdicts = k.before.verdicts
  /-- No verdict is changed or taken back, neither in a call nor between two calls. -/
  kept : v.Within c.verdicts ∧ ∀ {earlier k later}, ks = earlier ++ k :: later →
    v.Within k.before.verdicts ∧ k.before.verdicts.Within k.after.verdicts ∧
      (∀ j ∈ later, k.after.verdicts.Within j.before.verdicts) ∧
      k.after.verdicts.Within c.verdicts
  /-- The lookups that have been counted are those that the server has received. -/
  lookups : c.lookups = (ks.flatMap Call.acts).countP Act.isLookup
  /-- Every call is a lookup or a hit. -/
  calls : c.lookups + c.hits = ks.length

section

variable {W : Type} {s : Surroundings (StateM (Watched W))} {account : Account}

namespace Call

theorem Legal.lookups {k : Call} (h : k.Legal asking) :
    k.after.lookups = k.before.lookups + k.acts.countP Act.isLookup := by
  cases h with
  | known => rfl
  | failed _ ha =>
    rw [ha]
    rfl
  | answered _ ha =>
    rw [ha]
    rfl

/-- A call for a metric without a verdict is one lookup, and its result is what the server says. -/
theorem Legal.of_unknown {k : Call} (h : k.Legal asking)
    (hv : k.before.verdicts.get? k.metric = none) :
    ∃ range answer, k.acts = [.asked (Lookup.selector k.metric) range answer] ∧
      k.result =
        (answer.map fun series => !series.isEmpty).mapError (Error.metricLookup k.metric) := by
  cases h with
  | known hv' => exact absurd (hv'.symm.trans hv) (by simp)
  | failed _ ha => exact ⟨_, _, ha, rfl⟩
  | answered _ ha => exact ⟨_, _, ha, rfl⟩

theorem Legal.of_answered {k : Call} (h : k.Legal asking) {series : List Series}
    (ha : k.Answered asking series) : k.result = .ok (!series.isEmpty) := by
  obtain ⟨range, hacts⟩ := ha
  cases h with
  | known => nomatch hacts
  | failed _ ha => nomatch ha.symm.trans hacts
  | answered _ ha =>
    cases ha.symm.trans hacts
    rfl

theorem Legal.filter_acts {k : Call} (h : k.Legal asking) :
    k.acts.filter Act.isLookup = k.acts := by
  cases h with
  | known => rfl
  | failed _ ha =>
    rw [ha]
    rfl
  | answered _ ha =>
    rw [ha]
    rfl

theorem Legal.filter_actsFor {k : Call} (h : k.Legal asking) (q : RuleQuery) :
    (k.actsFor q).filter Act.isLookup = k.acts := by
  rw [actsFor, List.filter_append, h.filter_acts]
  cases k.event? q with
  | none => exact List.append_nil _
  | some e => exact List.append_nil _

end Call

theorem Visit.filter_acts {v : Visit} (h : ∀ k ∈ v.calls, k.Legal asking) :
    v.acts.filter Act.isLookup = v.calls.flatMap Call.acts := by
  rcases v with ⟨q, message | ks⟩
  · rfl
  · refine (List.filter_flatMap ..).trans ?_
    exact List.flatMap_congr fun k hk => (h k hk).filter_actsFor q

/-- The lookups that the server receives in an audit are those of the calls. -/
theorem Tour.filter_acts (hs : s.Records asking) {qs : List RuleQuery} {c c' : Checker}
    {vs : List Visit} (h : Tour s qs c vs c') :
    (vs.flatMap Visit.acts).filter Act.isLookup = (vs.flatMap Visit.calls).flatMap Call.acts := by
  rw [List.filter_flatMap, List.flatMap_assoc]
  refine List.flatMap_congr fun v hv => Visit.filter_acts fun k hk => ?_
  exact (h.session.happens k (List.mem_flatMap_of_mem hv hk)).legal hs

namespace Session

theorem lookups (hs : s.Records asking) {c c' : Checker} {ks : List Call} (h : Session s c ks c') :
    c'.lookups = c.lookups + (ks.flatMap Call.acts).countP Act.isLookup := by
  induction h with
  | nil => rfl
  | cons first _ ih =>
    rw [ih, (first.legal hs).lookups, List.flatMap_cons, List.countP_append, Nat.add_assoc]

/-- Later calls know what an earlier call leaves behind. -/
theorem within_before (hs : s.Records account) {c c' : Checker} {ks : List Call}
    (h : Session s c ks c') {k : Call} (hk : k ∈ ks) : c.verdicts.Within k.before.verdicts := by
  obtain ⟨earlier, later, rfl⟩ := List.append_of_mem hk
  exact h.around.1.within hs

theorem memoised_of_records (hs : s.Records asking) {v : Verdicts} {c : Checker} {ks : List Call}
    (h : Session s (.ofVerdicts v) ks c) : Memoised v ks c where
  known k hk found hv :=
    ((h.happens k hk).legal hs).of_known (h.within_before hs hk _ _ hv)
  asks := by
    rintro earlier k later rfl hv hnot
    obtain ⟨hearlier, hk, -⟩ := h.around
    refine (hk.legal hs).of_unknown ?_
    cases hb : k.before.verdicts.get? k.metric with
    | none => rfl
    | some found =>
      -- the verdict would come from an answer before the call
      obtain ⟨j, hj, hm, series, ha, -⟩ := hearlier.origin hs hv hb
      exact absurd ha (hnot j hj hm series)
  settled := by
    rintro earlier k later rfl series ha
    obtain ⟨-, hk, hlater⟩ := h.around
    have hr := (hk.legal hs).of_answered ha
    refine ⟨hr, fun j hj hm => ((hlater.happens j hj).legal hs).of_known ?_⟩
    rw [hm]
    exact hlater.within_before hs hj _ _ ((hk.legal hs).verdict hr)
  failure k hk e hr := by
    obtain ⟨cause, hc, rfl, -, hkeep⟩ := ((h.happens k hk).legal hs).of_error hr
    exact ⟨cause, hc, rfl, rfl, hkeep⟩
  kept := by
    refine ⟨h.within hs, ?_⟩
    rintro earlier k later rfl
    obtain ⟨hearlier, hk, hlater⟩ := h.around
    exact ⟨hearlier.within hs, (hk.legal hs).within, fun j hj => hlater.within_before hs hj,
      hlater.within hs⟩
  lookups := (h.lookups hs).trans (Nat.zero_add _)
  calls := (h.counted hs).1.trans (Nat.zero_add _)

end Session

/-- An audit is a session with the calls for the metrics of its queries. -/
theorem Audit.run_session (hs : s.Records asking)
    (source : StateM W (Except Error (List RuleQuery))) (c : Checker) (x : Watched W) :
    ∃ ks, Session s c ks (run s (quietly source) c x).1.2 ∧
      ks.map Call.metric = ((source x.world).1.toOption.getD []).flatMap RuleQuery.metrics ∧
      (run s (quietly source) c x).2.acts.filter Act.isLookup =
        x.acts.filter Act.isLookup ++ ks.flatMap Call.acts := by
  obtain ⟨vs, ht, hacts, -⟩ := run_quietly hs source c x
  refine ⟨vs.flatMap Visit.calls, ht.session, ht.metrics, ?_⟩
  rw [hacts, List.filter_append, ht.filter_acts hs]

end

/-- **Memoisation**: whatever the server answers and whenever, the calls of a checker follow the
discipline, and so do the calls before and in an audit with the same checker. -/
theorem Checker.memoised {W : Type} (s : Surroundings (StateM W)) {v : Verdicts} {c : Checker}
    {ks : List Call} (h : Session s.watched (.ofVerdicts v) ks c) :
    Memoised v ks c ∧
      ∀ (source : StateM W (Except Error (List RuleQuery))) (x : Watched W), ∃ more,
        let after := Audit.run s.watched (quietly source) c x
        Session s.watched (.ofVerdicts v) (ks ++ more) after.1.2 ∧
          Memoised v (ks ++ more) after.1.2 ∧
          more.map Call.metric = ((source x.world).1.toOption.getD []).flatMap RuleQuery.metrics ∧
          after.2.acts.filter Act.isLookup =
            x.acts.filter Act.isLookup ++ more.flatMap Call.acts := by
  have hs := s.watched_records
  refine ⟨h.memoised_of_records hs, fun source x => ?_⟩
  obtain ⟨more, hmore, hmetrics, hacts⟩ := Audit.run_session hs source c x
  have hall := h.append hmore
  exact ⟨more, hall, hall.memoised_of_records hs, hmetrics, hacts⟩

/-- Rules of one group with these texts. -/
def alerts (texts : List Text) : List RuleQuery :=
  texts.map fun text => ⟨[], ['g'], ['r'], .alerting, text⟩

/-- Surroundings whose server fails once, then has one series of anything, and then none. The world
is the number of lookups so far. -/
def fickle : Surroundings (StateM Nat) where
  backend :=
    { ruleGroups := pure (.ok [])
      series := fun _ _ n =>
        (if n = 0 then .error (.backend "gone") else if n = 1 then .ok [[]] else .ok [], n + 1) }
  now := pure .earliest
  note _ := pure ()
  tell _ := pure ()

/-- The lookup of a metric in these surroundings, with its answer. -/
def fickleLookup (metric : Text) (answer : Except Error (List Series)) : Act :=
  .asked (Lookup.selector metric) (.lifetimeUntil .earliest) answer

/-- Three calls for the same metric in these surroundings: a failure, a verdict, and the same
verdict again, although the server would now say otherwise. -/
def fickleCalls (metric : Text) : List Call :=
  let c : Checker := .ofVerdicts .empty
  let failure : Except Error Bool := .error (.metricLookup metric (.backend "gone"))
  [⟨metric, c, [fickleLookup metric (.error (.backend "gone"))], failure, c.asked⟩,
   ⟨metric, c.asked, [fickleLookup metric (.ok [[]])], .ok true, c.asked.learned metric true⟩,
   ⟨metric, c.asked.learned metric true, [], .ok true, (c.asked.learned metric true).hit⟩]

theorem session_fickle :
    Session fickle.watched (.ofVerdicts .empty) (fickleCalls ['u', 'p'])
      ((Checker.ofVerdicts .empty).asked.learned ['u', 'p'] true).hit := by
  have happens : ∀ k ∈ fickleCalls ['u', 'p'], k.Happens fickle.watched := by
    simp only [fickleCalls, List.forall_mem_cons]
    exact ⟨⟨⟨0, []⟩, 1, rfl⟩, ⟨⟨1, []⟩, 2, rfl⟩, ⟨⟨2, []⟩, 2, rfl⟩, by simp⟩
  simp only [fickleCalls, List.forall_mem_cons] at happens
  exact .cons happens.1 (.cons happens.2.1 (.cons happens.2.2.1 (.nil _)))

theorem memoised_fickle :
    Memoised .empty (fickleCalls ['u', 'p'])
      ((Checker.ofVerdicts .empty).asked.learned ['u', 'p'] true).hit :=
  (Checker.memoised fickle session_fickle).1

end RuleAudit
