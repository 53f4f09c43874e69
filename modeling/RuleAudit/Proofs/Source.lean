import RuleAudit.Proofs.Run.Watch
import RuleAudit.Source

/-!
When rules cannot be had from a source, and what asking for them leaves alone.

* `Source.Fails`: the ways in which a source can fail, each with its error;
* `Source.queries_eq_error`: a source fails in one of these ways or gives its queries;
* `Source.queries_watched`: nothing passes between a source and the server but the listing.
-/

namespace RuleAudit

section

variable {W : Type}

/-! ### Files one after another -/

namespace RuleFile

variable [Wording]

/-- The queries of a file that has these bytes, or why there are none. -/
def queriesIn (path : Text) (bytes : Except Text (List UInt8)) : Except Error (List RuleQuery) :=
  decode path bytes >>= readQueries path

variable {contents : Text → StateM W (Except Text (List UInt8))}

theorem readAll_cons_error {path : Text} {rest : List Text} {w : W} {e : Error}
    (h : queriesIn path (contents path w).1 = .error e) :
    readAll contents (path :: rest) w = (.error e, (contents path w).2) := by
  simp only [readAll, stateM_bind_apply]
  rw [← queriesIn, h]
  rfl

theorem readAll_cons_ok {path : Text} {rest : List Text} {w : W} {qs : List RuleQuery}
    (h : queriesIn path (contents path w).1 = .ok qs) :
    readAll contents (path :: rest) w =
      ((readAll contents rest (contents path w).2).1.map (qs ++ ·),
        (readAll contents rest (contents path w).2).2) := by
  simp only [readAll, stateM_bind_apply]
  rw [← queriesIn, h]
  simp only [stateM_bind_apply]
  rcases readAll contents rest (contents path w).2 with ⟨e | more, w'⟩ <;> rfl

/-- **Reading files fails with the first that cannot be read**: those before it have been read, and
those behind it make no difference. -/
theorem readAll_eq_error {paths : List Text} {w : W} {e : Error} :
    (readAll contents paths w).1 = .error e ↔
      ∃ before path after qs, paths = before ++ path :: after ∧
        (readAll contents before w).1 = .ok qs ∧
        queriesIn path (contents path (readAll contents before w).2).1 = .error e := by
  induction paths generalizing w with
  | nil =>
    constructor
    · intro h
      cases h
    · rintro ⟨before, path, after, qs, h, -⟩
      simp at h
  | cons path rest ih =>
    cases hpath : queriesIn path (contents path w).1 with
    | error e' =>
      -- the first file is the one that fails, so there can be none before it
      rw [readAll_cons_error hpath]
      constructor
      · intro h
        cases h
        exact ⟨[], path, rest, [], rfl, rfl, hpath⟩
      · rintro ⟨_ | ⟨first, before⟩, other, after, qs, hsplit, hbefore, hother⟩
        · obtain ⟨rfl, -⟩ := List.cons.inj hsplit
          exact hpath.symm.trans hother
        · obtain ⟨rfl, -⟩ := List.cons.inj hsplit
          rw [readAll_cons_error hpath] at hbefore
          cases hbefore
    | ok qs =>
      have hmap : ∀ r : Except Error (List RuleQuery), r.map (qs ++ ·) = .error e ↔ r = .error e := by
        rintro (_ | _) <;> simp [Except.map]
      rw [readAll_cons_ok hpath, hmap, ih]
      constructor
      · rintro ⟨before, other, after, more, rfl, hbefore, hother⟩
        refine ⟨path :: before, other, after, qs ++ more, rfl, ?_, ?_⟩
        · rw [readAll_cons_ok hpath, hbefore]
          rfl
        · rw [readAll_cons_ok hpath]
          exact hother
      · rintro ⟨_ | ⟨first, before⟩, other, after, more, hsplit, hbefore, hother⟩
        · obtain ⟨rfl, -⟩ := List.cons.inj hsplit
          exact absurd (hpath.symm.trans hother) (by simp)
        · obtain ⟨rfl, rfl⟩ := List.cons.inj hsplit
          rw [readAll_cons_ok hpath] at hbefore hother
          cases hread : (readAll contents before (contents path w).2).1 with
          | error e' =>
            rw [hread] at hbefore
            cases hbefore
          | ok more' => exact ⟨before, other, after, more', rfl, hread, hother⟩

/-- One file that can never be read is enough, wherever it stands. -/
theorem readAll_fails {paths : List Text} {path : Text} (hmem : path ∈ paths)
    (h : ∀ w, ∃ e, queriesIn path (contents path w).1 = .error e) (w : W) :
    ∃ e, (readAll contents paths w).1 = .error e := by
  induction paths generalizing w with
  | nil => cases hmem
  | cons first rest ih =>
    cases hfirst : queriesIn first (contents first w).1 with
    | error e => exact ⟨e, congrArg (·.1) (readAll_cons_error hfirst)⟩
    | ok qs =>
      obtain rfl | hrest := List.mem_cons.1 hmem
      · obtain ⟨e, he⟩ := h w
        exact absurd (hfirst.symm.trans he) (by simp)
      · obtain ⟨e, he⟩ := ih hrest (contents first w).2
        refine ⟨e, ?_⟩
        rw [readAll_cons_ok hfirst, he]
        rfl

end RuleFile

/-! ### Sources -/

namespace Source

/-- The ways in which a source fails, each with its error: the server does not list its rules; or a
file cannot be read or is no rule file, and those before it are. -/
inductive Fails [Wording] (b : Backend (StateM W))
    (contents : Text → StateM W (Except Text (List UInt8))) (w : W) : Source → Error → Prop
  | unlisted {cause : Error} (h : (b.ruleGroups w).1 = .error cause) :
    Fails b contents w server (.listRules cause)
  | unread {before after : List Text} {path : Text} {qs : List RuleQuery} {e : Error}
    (hbefore : (RuleFile.readAll contents before w).1 = .ok qs)
    (h : RuleFile.queriesIn path (contents path (RuleFile.readAll contents before w).2).1 =
      .error e) : Fails b contents w (files (before ++ path :: after)) e

/-- The files of a source. -/
def paths : Source → List Text
  | server => []
  | files paths => paths

variable {b : Backend (StateM W)} {note : LogRecord → StateM W Unit}
  {contents : Text → StateM W (Except Text (List UInt8))}

theorem ofServer_eq_error {w : W} {e : Error} :
    (ofServer b note w).1 = .error e ↔
      ∃ cause, (b.ruleGroups w).1 = .error cause ∧ e = .listRules cause := by
  simp only [ofServer, stateM_bind_apply]
  rcases b.ruleGroups w with ⟨cause | gs, w'⟩
  · exact ⟨fun h => ⟨cause, rfl, (Except.error.inj h).symm⟩,
      fun ⟨_, hcause, he⟩ => by rw [he, ← Except.error.inj hcause]; rfl⟩
  · constructor
    · intro h
      cases h
    · rintro ⟨_, h, -⟩
      cases h

/-- **When a source fails**, and with which error. -/
theorem queries_eq_error [Wording] {source : Source} {w : W} {e : Error} :
    (source.queries b note contents w).1 = .error e ↔ source.Fails b contents w e := by
  cases source with
  | server =>
    refine ofServer_eq_error.trans ⟨?_, ?_⟩
    · rintro ⟨cause, h, rfl⟩
      exact .unlisted h
    · intro h
      cases h with
      | unlisted h => exact ⟨_, h, rfl⟩
  | files paths =>
    refine RuleFile.readAll_eq_error.trans ⟨?_, ?_⟩
    · rintro ⟨before, path, after, qs, rfl, hbefore, h⟩
      exact .unread hbefore h
    · intro h
      cases h with
      | unread hbefore h => exact ⟨_, _, _, _, rfl, hbefore, h⟩

/-! ### Sources that are watched -/

end Source

section

variable {α β : Type}

theorem quietly_bind (p : StateM W α) (f : α → StateM W β) :
    quietly (p >>= f) = quietly p >>= fun a => quietly (f a) := rfl

/-- Doing one thing after another quietly is doing each of them quietly. -/
theorem quietly_forM (p : α → StateM W Unit) (as : List α) :
    quietly (as.forM p) = as.forM fun a => quietly (p a) := by
  induction as with
  | nil => rfl
  | cons a rest ih =>
    change quietly (p a >>= fun _ => rest.forM p) = quietly (p a) >>= fun _ => rest.forM _
    rw [quietly_bind, ih]

theorem RuleFile.readAll_quietly [Wording] (contents : Text → StateM W (Except Text (List UInt8)))
    (paths : List Text) :
    readAll (fun path => quietly (contents path)) paths = quietly (readAll contents paths) := by
  induction paths with
  | nil => rfl
  | cons path rest ih =>
    rw [readAll, readAll, quietly_bind]
    refine congrArg (quietly (contents path) >>= ·) (funext fun bytes => ?_)
    cases decode path bytes >>= readQueries path with
    | error e => rfl
    | ok qs =>
      dsimp only
      rw [ih, quietly_bind]
      refine congrArg (quietly (readAll contents rest) >>= ·) (funext fun more => ?_)
      cases more <;> rfl

end

namespace Source

variable {contents : Text → StateM W (Except Text (List UInt8))}

/-- **Nothing is written down when queries are had from a source**: no series are looked up, and
nothing is told. -/
theorem queries_watched [Wording] (source : Source) (s : Surroundings (StateM W)) :
    source.queries s.watched.backend s.watched.note (fun path => quietly (contents path)) =
      quietly (source.queries s.backend s.note contents) := by
  cases source with
  | server =>
    change ofServer s.watched.backend s.watched.note = quietly (ofServer s.backend s.note)
    rw [ofServer, ofServer, quietly_bind]
    refine congrArg (quietly s.backend.ruleGroups >>= ·) (funext fun listed => ?_)
    cases listed with
    | error e => rfl
    | ok gs =>
      dsimp only
      rw [quietly_bind, quietly_forM]
      rfl
  | files paths => exact RuleFile.readAll_quietly contents paths

end Source

end

end RuleAudit
