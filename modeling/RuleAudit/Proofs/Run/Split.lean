import RuleAudit.Proofs.Run.Beside
import RuleAudit.Proofs.Run.Memo

/-!
Audits in two parts: whether the rules of two lists are audited at once, or those of the first list
and then those of the second with the same checker, comes to the same.

* `Audit.auditQueries_parted`: queries one after another are audited in one go or in two;
* `Results.Joins`: how the results of two audits make up those of one;
* `Audit.run_split`: an audit of two lists, and an audit of each.
-/

namespace RuleAudit

/-! ### Queries in two lists -/

namespace Audit

theorem auditQueries_append {X : Type} (s : Surroundings (StateM X)) (qs qs' : List RuleQuery)
    (c : Checker) (x : X) :
    auditQueries s (qs ++ qs') c x =
      let one := auditQueries s qs c x
      let two := auditQueries s qs' one.1.2 one.2
      ((one.1.1 ++ two.1.1, two.1.2), two.2) := by
  induction qs generalizing c x with
  | nil => rfl
  | cons q rest ih =>
    simp only [List.cons_append, auditQueries, stateM_bind_apply, ih]
    rfl

/-- Queries can be audited in one go or in two, and with anything between the two that cannot be
told apart. -/
theorem auditQueries_parted {X Y : Type} {R : X → Y → Prop} {s : Surroundings (StateM X)}
    {s' : Surroundings (StateM Y)} (h : s.Akin R s') (qs qs' : List RuleQuery) (c : Checker) {x : X}
    {y z : Y} (hxy : R x y) (hz : ∀ x', R x' (auditQueries s' qs c y).2 → R x' z) :
    let one := auditQueries s' qs c y
    let two := auditQueries s' qs' one.1.2 z
    (auditQueries s (qs ++ qs') c x).1 = (one.1.1 ++ two.1.1, two.1.2) ∧
      R (auditQueries s (qs ++ qs') c x).2 two.2 := by
  intro one two
  obtain ⟨hone, hnext⟩ := auditQueries_alike h qs c x y hxy
  obtain ⟨htwo, hlast⟩ := auditQueries_alike h qs' one.1.2 _ z (hz _ hnext)
  simp only [auditQueries_append, hone]
  exact ⟨congrArg (fun r => (one.1.1 ++ r.1, r.2)) htwo, hlast⟩

section

variable {W : Type} {s : Surroundings (StateM (Watched W))} {account : Account}

/-- A checker never counts less than before. -/
theorem auditQueries_counted (hs : s.Records account) (qs : List RuleQuery) (c : Checker)
    (x : Watched W) :
    c.lookups ≤ (auditQueries s qs c x).1.2.lookups ∧ c.hits ≤ (auditQueries s qs c x).1.2.hits := by
  obtain ⟨vs, c', w, ht, hrun⟩ := auditQueries_tour hs qs c x
  rw [hrun]
  exact (ht.session.counted hs).2

end

end Audit

/-! ### Results of two audits -/

/-- The counts of two audits together. -/
def Counters.plus (a b : Counters) : Counters where
  rulesListed := a.rulesListed + b.rulesListed
  rulesValidated := a.rulesValidated + b.rulesValidated
  metricsChecked := a.metricsChecked + b.metricsChecked
  backendCalls := a.backendCalls + b.backendCalls
  cacheHits := a.cacheHits + b.cacheHits

/-- The status of two audits together: missing metrics outrank everything, and then failures. -/
def Status.plus (a b : Status) : Status :=
  if a = missingMetrics ∨ b = missingMetrics then missingMetrics
  else if a = incomplete ∨ b = incomplete then incomplete
  else clean

/-- The results are those of two audits together. -/
structure Results.Joins (r one two : Results) : Prop where
  findings : r.findings = one.findings ++ two.findings
  diagnostics : r.diagnostics = one.diagnostics ++ two.diagnostics
  counters : r.counters = one.counters.plus two.counters
  status : r.status = one.status.plus two.status

theorem Status.derive_add (f d f' d' : Nat) :
    derive (f + f') (d + d') = (derive f d).plus (derive f' d') := by
  unfold plus
  split
  case isTrue h =>
    rw [derive_eq_missingMetrics, derive_eq_missingMetrics] at h
    rw [derive_eq_missingMetrics]
    omega
  case isFalse hfound =>
    rw [derive_eq_missingMetrics, derive_eq_missingMetrics] at hfound
    split
    case isTrue h =>
      rw [derive_eq_incomplete, derive_eq_incomplete] at h
      rw [derive_eq_incomplete]
      omega
    case isFalse h =>
      rw [derive_eq_incomplete, derive_eq_incomplete] at h
      rw [derive_eq_clean]
      omega

theorem Outcomes.events_append (os os' : Outcomes) :
    events (os ++ os') = events os ++ events os' := List.flatMap_append

/-- The results of outcomes in two lists, with the work of both. -/
theorem Outcomes.results_joins (os os' : Outcomes) (lookups hits lookups' hits' : Nat) :
    (results (os ++ os') (lookups + lookups') (hits + hits')).Joins (results os lookups hits)
      (results os' lookups' hits') := by
  have hfindings : (results (os ++ os') (lookups + lookups') (hits + hits')).findings =
      (results os lookups hits).findings ++ (results os' lookups' hits').findings := by
    simp only [results, events_append, List.filterMap_append]
  have hdiagnostics : (results (os ++ os') (lookups + lookups') (hits + hits')).diagnostics =
      (results os lookups hits).diagnostics ++ (results os' lookups' hits').diagnostics := by
    simp only [results, events_append, List.filterMap_append]
  refine ⟨hfindings, hdiagnostics, ?_, ?_⟩
  · simp only [results, Counters.plus, List.length_append, List.filter_append, List.map_append,
      List.sum_append]
  · rw [Results.status, hfindings, hdiagnostics, List.length_append, List.length_append]
    exact Status.derive_add _ _ _ _

/-- The same, with the work told by what has been counted before, between and after. -/
theorem Outcomes.results_joins_between (os os' : Outcomes) {c₀ c₁ c₂ : Checker}
    (h : c₀.lookups ≤ c₁.lookups ∧ c₀.hits ≤ c₁.hits)
    (h' : c₁.lookups ≤ c₂.lookups ∧ c₁.hits ≤ c₂.hits) :
    (results (os ++ os') (c₂.lookups - c₀.lookups) (c₂.hits - c₀.hits)).Joins
      (results os (c₁.lookups - c₀.lookups) (c₁.hits - c₀.hits))
      (results os' (c₂.lookups - c₁.lookups) (c₂.hits - c₁.hits)) := by
  have hlookups : c₂.lookups - c₀.lookups =
      (c₁.lookups - c₀.lookups) + (c₂.lookups - c₁.lookups) := by omega
  have hhits : c₂.hits - c₀.hits = (c₁.hits - c₀.hits) + (c₂.hits - c₁.hits) := by omega
  rw [hlookups, hhits]
  exact results_joins os os' _ _ _ _

/-! ### Two audits and one -/

/-- **An audit in two parts**: with a log beside the world and sources that leave the world alone,
an audit of two lists at once does in the world what an audit of the first and then one of the
second do with the same checker, whatever the server answers and whoever is told. All that is told
and asked is the same, the checkers are the same, and the results are those of both. -/
theorem Audit.run_split {W K : Type} (s : Surroundings (StateM W))
    (note : LogRecord → StateM K Unit)
    (both first second : StateM K (Except Error (List RuleQuery))) (c : Checker) (w : W) (k : K) :
    let near := (s.loggedTo note).watched
    let whole := run near (quietly (beside both)) c ⟨(w, k), []⟩
    let one := run near (quietly (beside first)) c ⟨(w, k), []⟩
    let two := run near (quietly (beside second)) one.1.2 one.2
    ∀ qs qs', (first k).1 = .ok qs → (second one.2.world.2).1 = .ok qs' →
      (both k).1 = .ok (qs ++ qs') →
      whole.2.acts = two.2.acts ∧ whole.2.world.1 = two.2.world.1 ∧ whole.1.2 = two.1.2 ∧
        ∃ r r₁ r₂, whole.1.1 = .ok r ∧ one.1.1 = .ok r₁ ∧ two.1.1 = .ok r₂ ∧ r.Joins r₁ r₂ := by
  intro near whole one two qs qs' hfirst hsecond hboth
  have hs : near.Records asking := (s.loggedTo note).watched_records
  have hakin : near.Akin (Watched.Level SameInside) near := (s.loggedTo_akin note note).watched
  -- the worlds in which the audits have their queries
  let x : Watched (W × K) := ⟨(w, (both k).2), []⟩
  let y : Watched (W × K) := ⟨(w, (first k).2), []⟩
  let z : Watched (W × K) := (quietly (beside second) one.2).2
  let a := auditQueries near (qs ++ qs') c x
  let b := auditQueries near qs c y
  let b' := auditQueries near qs' b.1.2 z
  have hwhole : whole = _ := run_listed near (x := ⟨(w, k), []⟩) (y := x) (quietly_eq hboth) c
  have hone : one = _ := run_listed near (x := ⟨(w, k), []⟩) (y := y) (quietly_eq hfirst) c
  have htwo : two = _ := run_listed near (y := z) (quietly_eq hsecond) one.1.2
  have hknown : one.1.2 = b.1.2 := congrArg (·.1.2) hone
  rw [hknown] at htwo
  -- between the audits there is a note, and there are the queries to be had: both beside the world
  have hbetween : ∀ x' : Watched (W × K),
      Watched.Level SameInside x' b.2 → Watched.Level SameInside x' z := by
    intro x' hx'
    have hworld : one.2.world.1 = b.2.world.1 := congrArg (·.2.world.1) hone
    have hacts : one.2.acts = b.2.acts := congrArg (·.2.acts) hone
    exact ⟨hx'.world.trans hworld.symm, hx'.acts.trans hacts.symm⟩
  obtain ⟨hall, hlevel⟩ := auditQueries_parted hakin qs qs' c (x := x) (y := y) ⟨rfl, rfl⟩ hbetween
  change a.1 = (b.1.1 ++ b'.1.1, b'.1.2) at hall
  change Watched.Level SameInside a.2 b'.2 at hlevel
  refine ⟨?_, ?_, ?_, _, _, _, congrArg (·.1.1) hwhole, congrArg (·.1.1) hone,
    congrArg (·.1.1) htwo, ?_⟩
  · rw [hwhole, htwo]
    exact hlevel.acts
  · rw [hwhole, htwo]
    exact hlevel.world
  · rw [hwhole, htwo]
    exact congrArg (·.2) hall
  · change Results.Joins (a.1.1.results (a.1.2.lookups - c.lookups) (a.1.2.hits - c.hits)) _ _
    rw [hall]
    exact Outcomes.results_joins_between b.1.1 b'.1.1 (auditQueries_counted hs qs c y)
      (auditQueries_counted hs qs' b.1.2 z)

theorem run_split_fickle :
    let near := (fickle.loggedTo fun r (log : List LogRecord) => ((), log ++ [r])).watched
    let audit (texts : List Text) := Audit.run near (quietly (beside (pure (.ok (alerts texts)))))
    let c : Checker := ⟨.empty, 7, 3⟩
    let whole := audit ["up + down", "up +", "down"] c ⟨(0, []), []⟩
    let one := audit ["up + down"] c ⟨(0, []), []⟩
    let two := audit ["up +", "down"] one.1.2 one.2
    whole.2.acts = two.2.acts ∧ whole.2.world.1 = two.2.world.1 ∧ whole.1.2 = two.1.2 ∧
      ∃ r r₁ r₂, whole.1.1 = .ok r ∧ one.1.1 = .ok r₁ ∧ two.1.1 = .ok r₂ ∧ r.Joins r₁ r₂ := by
  intro near audit c whole one two
  exact Audit.run_split fickle (fun r log => ((), log ++ [r])) (pure (.ok _)) (pure (.ok _))
    (pure (.ok _)) c 0 [] (alerts ["up + down"]) (alerts ["up +", "down"]) rfl rfl rfl

end RuleAudit
