import RuleAudit.Audit

/-!
Audits that go alike. Two programs over states of their own are alike if from related states they
give the same and lead to related states; audits are as alike as their surroundings are.

* `Alike`: what it means for two programs;
* `Surroundings.Akin`: what it means for surroundings;
* `Audit.run_alike`: audits in surroundings that are akin go alike.
-/

namespace RuleAudit

/-! ### Programs over a state -/

theorem stateM_bind_apply {σ α β : Type} (p : StateM σ α) (f : α → StateM σ β) (x : σ) :
    (p >>= f) x = f (p x).1 (p x).2 := rfl

section

variable {X Y α β : Type} {R : X → Y → Prop}

/-- From related states, the two programs give the same and lead to related states. -/
def Alike (R : X → Y → Prop) (p : StateM X α) (p' : StateM Y α) : Prop :=
  ∀ x y, R x y → (p x).1 = (p' y).1 ∧ R (p x).2 (p' y).2

namespace Alike

theorem pure (a : α) : Alike R (Pure.pure a) (Pure.pure a) := fun _ _ h => ⟨rfl, h⟩

theorem bind {p : StateM X α} {p' : StateM Y α} {f : α → StateM X β} {f' : α → StateM Y β}
    (hp : Alike R p p') (hf : ∀ a, Alike R (f a) (f' a)) : Alike R (p >>= f) (p' >>= f') := by
  intro x y hxy
  obtain ⟨ha, hnext⟩ := hp x y hxy
  rw [stateM_bind_apply, stateM_bind_apply, ← ha]
  exact hf _ _ _ hnext

end Alike

/-! ### Surroundings and audits -/

/-- All that an audit needs from outside goes alike. -/
structure Surroundings.Akin (R : X → Y → Prop) (s : Surroundings (StateM X))
    (s' : Surroundings (StateM Y)) : Prop where
  series : ∀ selector range,
    Alike R (s.backend.series selector range) (s'.backend.series selector range)
  now : Alike R s.now s'.now
  note : ∀ r, Alike R (s.note r) (s'.note r)
  tell : ∀ e, Alike R (s.tell e) (s'.tell e)

variable {s : Surroundings (StateM X)} {s' : Surroundings (StateM Y)}

theorem Checker.check_alike (h : s.Akin R s') (metric : Text) (c : Checker) :
    Alike R (check s metric c) (check s' metric c) := by
  unfold check
  cases c.verdicts.get? metric with
  | some found => exact .bind (h.note _) fun _ => .pure _
  | none =>
    refine .bind (.bind h.now fun t => h.series _ _) fun answer => ?_
    cases answer with
    | error e => exact .pure _
    | ok series => exact .bind (h.note _) fun _ => .pure _

namespace Audit

theorem tell_alike (h : s.Akin R s') (e : Option Event) :
    Alike R (e.forM s.tell) (e.forM s'.tell) := by
  cases e with
  | none => exact .pure _
  | some e => exact h.tell e

theorem checkMetrics_alike (h : s.Akin R s') (q : RuleQuery) (metrics : List Text) :
    ∀ c, Alike R (checkMetrics s q metrics c) (checkMetrics s' q metrics c) := by
  induction metrics with
  | nil => exact fun c => .pure _
  | cons metric rest ih =>
    intro c
    refine .bind (Checker.check_alike h metric c) fun r => ?_
    exact .bind (tell_alike h _) fun _ => .bind (ih _) fun _ => .pure _

theorem auditQuery_alike (h : s.Akin R s') (q : RuleQuery) (c : Checker) :
    Alike R (auditQuery s q c) (auditQuery s' q c) := by
  unfold auditQuery
  cases Query.parse q.query with
  | error message => exact .bind (h.tell _) fun _ => .pure _
  | ok e => exact .bind (checkMetrics_alike h q _ c) fun _ => .pure _

theorem auditQueries_alike (h : s.Akin R s') (qs : List RuleQuery) :
    ∀ c, Alike R (auditQueries s qs c) (auditQueries s' qs c) := by
  induction qs with
  | nil => exact fun c => .pure _
  | cons q rest ih =>
    intro c
    exact .bind (auditQuery_alike h q c) fun _ => .bind (ih _) fun _ => .pure _

/-- **Audits are as alike as their surroundings**, if their queries come from sources that are
alike, too. -/
theorem run_alike (h : s.Akin R s') {source : StateM X (Except Error (List RuleQuery))}
    {source' : StateM Y (Except Error (List RuleQuery))} (hsource : Alike R source source')
    (c : Checker) : Alike R (run s source c) (run s' source' c) := by
  unfold run
  refine .bind hsource fun listed => ?_
  cases listed with
  | error e => exact .pure _
  | ok qs =>
    refine .bind ?_ fun _ => .pure _
    exact .bind (auditQueries_alike h qs c) fun _ => .bind (h.note _) fun _ => .pure _

end Audit

end

end RuleAudit
