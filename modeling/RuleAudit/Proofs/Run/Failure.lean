import Mathlib.Data.List.Forall2
import RuleAudit.Proofs.Run.Beside
import RuleAudit.Proofs.Run.Memo
import RuleAudit.Proofs.Source

/-!
Audits whose rules cannot be had. Such an audit fails with the error of its source, and is otherwise
as good as none.

* `Audit.runs`: audits one after another with the same checker;
* `Traceless`: what it means that an audit is as good as none, then and later;
* `Audit.run_failed`: an audit whose source fails is.
-/

namespace RuleAudit

/-! ### Audits one after another -/

namespace Audit

/-- Audits one after another with the same checker, each of the queries of a source of its own. -/
def runs {m : Type → Type} [Monad m] (s : Surroundings m) :
    List (m (Except Error (List RuleQuery))) → Checker → m (List (Except Error Results) × Checker)
  | [], c => return ([], c)
  | source :: rest, c => do
    let (r, c) ← run s source c
    let (rs, c) ← runs s rest c
    return (r :: rs, c)

theorem runs_alike {X Y : Type} {R : X → Y → Prop} {s : Surroundings (StateM X)}
    {s' : Surroundings (StateM Y)} (h : s.Akin R s')
    {sources : List (StateM X (Except Error (List RuleQuery)))}
    {sources' : List (StateM Y (Except Error (List RuleQuery)))}
    (hsources : List.Forall₂ (Alike R) sources sources') :
    ∀ c, Alike R (runs s sources c) (runs s' sources' c) := by
  induction hsources with
  | nil => exact fun c => .pure _
  | cons hsource _ ih =>
    intro c
    exact .bind (run_alike h hsource c) fun _ => .bind (ih _) fun _ => .pure _

/-- An audit fails if and only if its source does, and with the same error. -/
theorem run_eq_error {X : Type} (s : Surroundings (StateM X))
    {source : StateM X (Except Error (List RuleQuery))} {c : Checker} {x : X} {e : Error} :
    (run s source c x).1.1 = .error e ↔ (source x).1 = .error e := by
  cases hx : (source x).1 with
  | error e' =>
    rw [run_unlisted s (Prod.ext hx rfl) c]
    constructor <;> intro h <;> cases h <;> rfl
  | ok qs =>
    rw [run_listed s (Prod.ext hx rfl) c]
    constructor <;> intro h <;> cases h

end Audit

/-! ### Failures -/

/-- An audit that a checker and a world have been through is as good as none. -/
structure Traceless {W : Type} (s : Surroundings (StateM W)) (c : Checker) (x : Watched W)
    (c' : Checker) (x' : Watched W) : Prop where
  /-- Nothing has been learned and nothing has been counted. -/
  checker : c' = c
  /-- No series have been looked up, and nothing has been told. -/
  acts : x'.acts = x.acts
  /-- If lookups cannot tell the worlds before and after apart, nor can what they lead to, then
  audits of the same rules come to the same, look up the same and tell the same as without it. -/
  later : ∀ {R : W → W → Prop}, s.Akin R s → R x'.world x.world →
    ∀ {sources sources' : List (StateM W (Except Error (List RuleQuery)))},
      List.Forall₂ (Alike R) sources sources' →
        let after := Audit.runs s.watched (sources.map quietly) c' x'
        let without := Audit.runs s.watched (sources'.map quietly) c x
        after.1 = without.1 ∧ after.2.acts = without.2.acts

theorem Traceless.of_acts {W : Type} (s : Surroundings (StateM W)) (c : Checker)
    {x x' : Watched W} (h : x'.acts = x.acts) : Traceless s c x c x' where
  checker := rfl
  acts := h
  later := by
    intro R hs hworld sources sources' hsources after without
    have hquiet : List.Forall₂ (Alike (Watched.Level R)) (sources.map quietly)
        (sources'.map quietly) := by
      rw [List.forall₂_map_left_iff, List.forall₂_map_right_iff]
      exact hsources.imp fun _ _ => Alike.quietly
    obtain ⟨hresults, hlevel⟩ := Audit.runs_alike hs.watched hquiet c x' x ⟨hworld, h⟩
    exact ⟨hresults, hlevel.acts⟩

/-- **A failed audit is as good as none**: whatever has been audited before, an audit fails exactly
if its source does, with the error of the source; one rule file that cannot be read or is none is
enough, whatever the others hold; and then no trace of the audit remains. -/
theorem Audit.run_failed [Wording] {W : Type} (s : Surroundings (StateM W))
    (contents : Text → StateM W (Except Text (List UInt8))) (source : Source) (c : Checker)
    (x : Watched W) :
    let listing :=
      source.queries s.watched.backend s.watched.note fun path => quietly (contents path)
    let after := run s.watched listing c x
    after.1 = (run s (source.queries s.backend s.note contents) c x.world).1 ∧
      (∀ e, after.1.1 = .error e ↔ source.Fails s.backend contents x.world e) ∧
      ((∃ path ∈ source.paths, ∀ w, ∃ e, RuleFile.queriesIn path (contents path w).1 = .error e) →
        ∃ e, after.1.1 = .error e) ∧
      ∀ e, after.1.1 = .error e → Traceless s c x after.1.2 after.2 := by
  intro listing after
  have hlisting : listing = quietly (source.queries s.backend s.note contents) :=
    source.queries_watched s
  have hfails (e : Error) :
      after.1.1 = .error e ↔ (source.queries s.backend s.note contents x.world).1 = .error e := by
    change (run s.watched listing c x).1.1 = _ ↔ _
    rw [run_eq_error, hlisting]
    rfl
  refine ⟨?_, fun e => (hfails e).trans Source.queries_eq_error, ?_, ?_⟩
  · change (run s.watched listing c x).1 = _
    rw [hlisting]
    exact (run_mirrors s.watched_mirror _ c x).1
  · rintro ⟨path, hmem, hpath⟩
    cases source with
    | server => cases hmem
    | files paths =>
      obtain ⟨e, he⟩ := RuleFile.readAll_fails hmem hpath x.world
      exact ⟨e, (hfails e).2 he⟩
  · intro e he
    have hafter : after = _ := run_unlisted s.watched
      (show listing x = _ from (congrFun hlisting x).trans (quietly_eq ((hfails e).1 he))) c
    rw [hafter]
    exact .of_acts s c rfl

/-- Surroundings whose server never lists its rules; each time it is asked to, it counts that beside
the world. -/
def unlisting : Surroundings (StateM (Nat × Nat)) :=
  let s := fickle.loggedTo fun _ => pure ()
  s.over { s.backend with ruleGroups := beside fun n => (.error (.backend "gone"), n + 1) }

theorem unlisting_akin : unlisting.Akin SameInside unlisting := by
  have h := fickle.loggedTo_akin (K := Nat) (L := Nat) (fun _ => pure ()) fun _ => pure ()
  exact ⟨h.series, h.now, h.note, h.tell⟩

open Plain in
theorem run_failed_unlisting :
    let s := unlisting
    let c : Checker := ⟨.empty, 7, 3⟩
    let x : Watched (Nat × Nat) := ⟨(0, 0), []⟩
    let source := Source.server.queries s.watched.backend s.watched.note fun _ =>
      quietly (pure (.error "gone"))
    let failed := Audit.run s.watched source c x
    let rules : StateM (Nat × Nat) (Except Error (List RuleQuery)) :=
      pure (.ok (alerts ["up + down", "up"]))
    let after := Audit.runs s.watched ([rules, rules].map quietly) failed.1.2 failed.2
    let without := Audit.runs s.watched ([rules, rules].map quietly) c x
    failed.1.1 = .error (.listRules (.backend "gone")) ∧ failed.1.2 = c ∧ failed.2.acts = [] ∧
      after.1 = without.1 ∧ after.2.acts = without.2.acts := by
  intro s c x source failed rules after without
  obtain ⟨-, hfails, -, htraceless⟩ :=
    Audit.run_failed s (fun _ => pure (.error "gone")) .server c x
  have herror : failed.1.1 = .error (.listRules (.backend "gone")) := (hfails _).2 (.unlisted rfl)
  have h := htraceless _ herror
  have hrules : Alike SameInside rules rules := .pure _
  exact ⟨herror, h.checker, h.acts,
    h.later unlisting_akin rfl (.cons hrules (.cons hrules .nil))⟩

end RuleAudit
