import RuleAudit.Program
import RuleAudit.Proofs.Run.Balance
import RuleAudit.Proofs.Run.Wire

/-!
What the exit code of the program says: whether it has failed, and else what has become of the rules
that it has audited.

* `Status.Sums`: how the status of an audit sums up its visits;
* `Program.Fails`: the ways in which the program can fail;
* `Program.Speechless`: it fails and cannot say so;
* `Program.Survey`: the visits of the audit that the program does;
* `Program.execute_exitCode`: what each exit code stands for.
-/

namespace RuleAudit

/-! ### What becomes of a query -/

theorem Call.event?_eq_finding {k : Call} {q : RuleQuery} {f : Finding} :
    k.event? q = some (.finding f) ↔ k.result = .ok false ∧ f = .of q k.metric := by
  refine ⟨result_of_finding, ?_⟩
  rintro ⟨hr, rfl⟩
  rw [event?, hr]
  rfl

theorem Call.event?_eq_diagnostic {k : Call} {q : RuleQuery} {d : Diagnostic} :
    k.event? q = some (.diagnostic d) ↔ ∃ e, k.result = .error e ∧ d = .of q e := by
  unfold event?
  rcases k.result with e | _ | _ <;> simp [Outcome.eventOf, eq_comm]

namespace Visit

/-- A metric of the query has been found to have no series. -/
def Misses (v : Visit) : Prop := ∃ k ∈ v.calls, k.result = .ok false

/-- The text is no query, or there is no verdict on one of its metrics. -/
def FallsShort (v : Visit) : Prop :=
  v.query.isReadable = false ∨ ∃ k ∈ v.calls, ∃ e, k.result = .error e

/-- The text is a query, and all its metrics have been found to exist. -/
def Passes (v : Visit) : Prop := v.query.isReadable = true ∧ ∀ k ∈ v.calls, k.result = .ok true

theorem passes_iff {v : Visit} : v.Passes ↔ ¬ v.Misses ∧ ¬ v.FallsShort := by
  have hresult : ∀ r : Except Error Bool, r = .ok true ↔ r ≠ .ok false ∧ ∀ e, r ≠ .error e := by
    rintro (e | _ | _) <;> simp
  simp only [Passes, Misses, FallsShort, hresult]
  cases v.query.isReadable <;> grind

theorem misses_iff {v : Visit} : v.Misses ↔ ∃ f, Event.finding f ∈ v.outcome.events v.query := by
  rcases v with ⟨q, message | ks⟩
  · simp [Misses, calls, outcome, Outcome.events]
  · simp only [events_outcome, List.mem_filterMap, Call.event?_eq_finding]
    constructor
    · rintro ⟨k, hk, hr⟩
      exact ⟨_, k, hk, hr, rfl⟩
    · rintro ⟨_, k, hk, hr, -⟩
      exact ⟨k, hk, hr⟩

theorem fallsShort_iff {v : Visit} (h : v.Reads) :
    v.FallsShort ↔ ∃ d, Event.diagnostic d ∈ v.outcome.events v.query := by
  obtain ⟨message, hv, hread⟩ | ⟨ks, hv, hread⟩ := h.cases_isReadable
  · rw [FallsShort, hread, outcome, hv]
    exact ⟨fun _ => ⟨_, List.mem_singleton_self _⟩, fun _ => .inl rfl⟩
  · rcases v with ⟨q, found⟩
    obtain rfl : found = .ok ks := hv
    rw [FallsShort, hread, events_outcome]
    simp only [List.mem_filterMap, Call.event?_eq_diagnostic, Bool.true_eq_false, false_or]
    constructor
    · rintro ⟨k, hk, e', hr⟩
      exact ⟨_, k, hk, e', hr, rfl⟩
    · rintro ⟨_, k, hk, e', hr, -⟩
      exact ⟨k, hk, e', hr⟩

end Visit

/-! ### What the results say about the visits -/

theorem mem_events_outcomesOf {vs : List Visit} {e : Event} :
    e ∈ (outcomesOf vs).events ↔ ∃ v ∈ vs, e ∈ v.outcome.events v.query := by
  rw [outcomesOf, Outcomes.events, List.flatMap_map, List.mem_flatMap]

namespace Outcomes

variable {os : Outcomes} {lookups hits : Nat}

theorem mem_findings {f : Finding} :
    f ∈ (os.results lookups hits).findings ↔ .finding f ∈ os.events := by
  simp [results]

theorem mem_diagnostics {d : Diagnostic} :
    d ∈ (os.results lookups hits).diagnostics ↔ .diagnostic d ∈ os.events := by
  simp [results]

end Outcomes

section

variable {vs : List Visit} {lookups hits : Nat}

theorem findings_length_pos :
    0 < ((outcomesOf vs).results lookups hits).findings.length ↔ ∃ v ∈ vs, v.Misses := by
  simp only [List.length_pos_iff_exists_mem, Outcomes.mem_findings, mem_events_outcomesOf,
    Visit.misses_iff]
  constructor
  · rintro ⟨f, v, hv, hf⟩
    exact ⟨v, hv, f, hf⟩
  · rintro ⟨v, hv, f, hf⟩
    exact ⟨f, v, hv, hf⟩

theorem diagnostics_length_pos (h : ∀ v ∈ vs, v.Reads) :
    0 < ((outcomesOf vs).results lookups hits).diagnostics.length ↔ ∃ v ∈ vs, v.FallsShort := by
  simp only [List.length_pos_iff_exists_mem, Outcomes.mem_diagnostics, mem_events_outcomesOf]
  constructor
  · rintro ⟨d, v, hv, hd⟩
    exact ⟨v, hv, (Visit.fallsShort_iff (h v hv)).2 ⟨d, hd⟩⟩
  · rintro ⟨v, hv, hshort⟩
    obtain ⟨d, hd⟩ := (Visit.fallsShort_iff (h v hv)).1 hshort
    exact ⟨d, v, hv, hd⟩

/-- How an audit has ended, by its visits. -/
structure Status.Sums (status : Status) (vs : List Visit) : Prop where
  missing : status = missingMetrics ↔ ∃ v ∈ vs, v.Misses
  incomplete : status = incomplete ↔ (¬ ∃ v ∈ vs, v.Misses) ∧ ∃ v ∈ vs, v.FallsShort
  clean : status = clean ↔ ∀ v ∈ vs, v.Passes

theorem Status.sums (h : ∀ v ∈ vs, v.Reads) :
    ((outcomesOf vs).results lookups hits).status.Sums vs := by
  refine ⟨?_, ?_, ?_⟩
  · rw [Results.status, derive_eq_missingMetrics, findings_length_pos]
  · rw [Results.status, derive_eq_incomplete, diagnostics_length_pos h, ← findings_length_pos,
      Nat.pos_iff_ne_zero, not_not]
  · have hpasses : (∀ v ∈ vs, v.Passes) ↔
        (¬ ∃ v ∈ vs, v.Misses) ∧ ¬ ∃ v ∈ vs, v.FallsShort := by
      simp only [Visit.passes_iff]
      grind
    rw [Results.status, derive_eq_clean, hpasses, ← diagnostics_length_pos h,
      ← findings_length_pos, Nat.pos_iff_ne_zero, Nat.pos_iff_ne_zero, not_not, not_not]

end

/-! ### The program step by step -/

namespace Program

section

variable {m : Type → Type} [Url.Idna] [Wording] [Monad m] (s : System m) (a : Arguments)
  (c : Client)

/-- What comes before the audit: a note, the number of the run and the time at which it starts. -/
def opening : m (Text × Instant) := do
  s.note (.checking c.config.baseUrl.render)
  let runId ← s.newRunId
  let startedAt ← s.now
  return (runId, startedAt)

/-- The queries of the rules that are to be audited. -/
def listing : m (Except Error (List RuleQuery)) :=
  (Source.ofPaths a.ruleFiles).queries (surroundings s c).backend s.note s.contents

/-- The audit itself. -/
def auditing : m (Except Error Results × Checker) :=
  Audit.run (surroundings s c) (listing s a c) (.ofVerdicts .empty)

/-- The report on an audit. -/
def reportOn (opened : Text × Instant) (finishedAt : Instant) (r : Results) : Report :=
  ⟨opened.1, opened.2.renderExact, finishedAt.renderExact, r⟩

/-- What comes after the audit. -/
def closing (opened : Text × Instant) (r : Results) : m (Except Error Status) := do
  let finishedAt ← s.now
  match ← writeReport s a (reportOn opened finishedAt r) with
  | .error e => return .error e
  | .ok () => return .ok r.status

end

theorem closing_result {W : Type} {s : System (StateM W)} {a : Arguments} {w : W}
    (opened : Text × Instant) (r : Results) :
    (closing s a opened r w).1 =
      if a.json then
        match (s.writeResult (reportText (reportOn opened (s.now w).1 r)) (s.now w).2).1 with
        | none => .ok r.status
        | some reason => .error (.io reason)
      else .ok r.status := by
  simp only [closing, writeReport, stateM_bind_apply]
  cases a.json with
  | false => rfl
  | true =>
    simp only [if_true, stateM_bind_apply]
    rcases s.writeResult _ _ with ⟨_ | reason, w'⟩ <;> rfl

theorem configure_eq_error [Url.Idna] {a : Arguments} (environment : Text → Option Text) :
    (∃ e, configure environment a = .error e) ↔
      (∃ e, Config.resolveIn environment (overrides a) = .error e) ∨
        ∃ config e, Config.resolveIn environment (overrides a) = .ok config ∧
          Client.ofConfig config = .error e := by
  unfold configure
  cases Config.resolveIn environment (overrides a) with
  | error e => simp [bind, Except.bind]
  | ok config => simp [bind, Except.bind]

section

variable [Url.Idna] [Wording] {W : Type} {s : System (StateM W)} {a : Arguments} {c : Client}
  {w : W}

theorem run_unconfigured {e : Error} (h : configure s.environment a = .error e) :
    run s a w = (.error e, w) := by
  rw [run, h]
  rfl

theorem run_configured (h : configure s.environment a = .ok c) :
    let opened := opening s c w
    let audited := auditing s a c opened.2
    run s a w =
      match audited.1.1 with
      | .error e => (.error e, audited.2)
      | .ok r => closing s a opened.1 r audited.2 := by
  intro opened audited
  -- the steps of the program are grouped anew, which no state can tell
  have haudit : run s a w =
      (match audited.1.1 with
        | .error e => (pure (.error e) : StateM W (Except Error Status))
        | .ok r => closing s a opened.1 r) audited.2 := by
    rw [run, h]
    rfl
  rw [haudit]
  cases audited.1.1 <;> rfl

theorem run_unlisted (hc : configure s.environment a = .ok c) {e : Error}
    (h : (listing s a c (opening s c w).2).1 = .error e) : (run s a w).1 = .error e := by
  have haudit : auditing s a c (opening s c w).2 = _ :=
    Audit.run_unlisted (surroundings s c) (Prod.ext h rfl) _
  rw [run_configured hc, haudit]

theorem run_audited (hc : configure s.environment a = .ok c) {r : Results}
    (h : (auditing s a c (opening s c w).2).1.1 = .ok r) :
    (run s a w).1 = (closing s a (opening s c w).1 r (auditing s a c (opening s c w).2).2).1 := by
  rw [run_configured hc, h]

theorem auditing_listed {qs : List RuleQuery} (h : (listing s a c w).1 = .ok qs) :
    ∃ r, (auditing s a c w).1.1 = .ok r := by
  have haudit : auditing s a c w = _ :=
    Audit.run_listed (surroundings s c) (Prod.ext h rfl) _
  exact ⟨_, congrArg (·.1.1) haudit⟩

/-! ### Failures -/

/-- The ways in which the program can fail. -/
inductive Fails (s : System (StateM W)) (a : Arguments) (w : W) : Prop
  /-- Arguments and environment make no configuration. -/
  | unresolved {e : Error} (h : Config.resolveIn s.environment (overrides a) = .error e)
  /-- There is no client with the configuration. -/
  | unbuilt {config : Config} {e : Error}
    (hconfig : Config.resolveIn s.environment (overrides a) = .ok config)
    (h : Client.ofConfig config = .error e)
  /-- The rules cannot be had from the server, or from the files. -/
  | unlisted {c : Client} {e : Error} (hc : configure s.environment a = .ok c)
    (h : (listing s a c (opening s c w).2).1 = .error e)
  /-- A report is wanted, and it cannot be printed. -/
  | unprinted {c : Client} {r : Results} {reason : Text} (hc : configure s.environment a = .ok c)
    (hr : (auditing s a c (opening s c w).2).1.1 = .ok r) (hjson : a.json = true)
    (h : let finished := s.now (auditing s a c (opening s c w).2).2
      (s.writeResult (reportText (reportOn (opening s c w).1 finished.1 r)) finished.2).1 =
        some reason)

theorem Fails.run_eq_error (h : Fails s a w) : ∃ e, (run s a w).1 = .error e := by
  obtain h | ⟨hconfig, h⟩ | ⟨hc, h⟩ | @⟨c, r, reason, hc, hr, hjson, h⟩ := h
  · obtain ⟨e, hc⟩ := (configure_eq_error s.environment).2 (.inl ⟨_, h⟩)
    exact ⟨e, congrArg (·.1) (run_unconfigured hc)⟩
  · obtain ⟨e, hc⟩ := (configure_eq_error s.environment).2 (.inr ⟨_, _, hconfig, h⟩)
    exact ⟨e, congrArg (·.1) (run_unconfigured hc)⟩
  · exact ⟨_, run_unlisted hc h⟩
  · refine ⟨.io reason, ?_⟩
    rw [run_audited hc hr, closing_result, if_pos hjson, h]

/-- The program fails, or its audit comes to results, whose status is that of the program. -/
theorem run_cases (s : System (StateM W)) (a : Arguments) (w : W) :
    Fails s a w ∨ ∃ c qs r, configure s.environment a = .ok c ∧
      (listing s a c (opening s c w).2).1 = .ok qs ∧
      (auditing s a c (opening s c w).2).1.1 = .ok r ∧ (run s a w).1 = .ok r.status := by
  cases hc : configure s.environment a with
  | error e =>
    obtain ⟨_, h⟩ | ⟨_, _, hconfig, h⟩ := (configure_eq_error s.environment).1 ⟨e, hc⟩
    · exact .inl (.unresolved h)
    · exact .inl (.unbuilt hconfig h)
  | ok c =>
    cases hl : (listing s a c (opening s c w).2).1 with
    | error e => exact .inl (.unlisted hc hl)
    | ok qs =>
      -- an audit with queries always comes to results: only printing them can fail now
      obtain ⟨r, hr⟩ := auditing_listed hl
      have hrun := run_audited hc hr
      rw [closing_result] at hrun
      split at hrun
      case isFalse => exact .inr ⟨c, qs, r, rfl, hl, hr, hrun⟩
      case isTrue hjson =>
        split at hrun
        case h_1 => exact .inr ⟨c, qs, r, rfl, hl, hr, hrun⟩
        case h_2 reason h => exact .inl (.unprinted hc hr hjson h)

/-! ### The audit of the program -/

/-- What the audit needs, in a world that writes down what passes over the wire. -/
def watched (s : System (StateM W)) (c : Client) : Surroundings (StateM (Watched W)) :=
  (surroundings s c).watched.over (c.backend (Client.Wire.mk s.send s.note).watched)

/-- The audit in such a world. -/
def auditingWatched (s : System (StateM W)) (a : Arguments) (c : Client) :
    StateM (Watched W) (Except Error Results × Checker) :=
  Audit.run (watched s c) (quietly (listing s a c)) (.ofVerdicts .empty)

theorem auditingWatched_mirrors (s : System (StateM W)) (a : Arguments) (c : Client) :
    Mirrors (auditingWatched s a c) (auditing s a c) :=
  Audit.run_mirrors ((surroundings s c).over_mirror c ⟨s.send, s.note⟩) (listing s a c) _

/-- The audit that the program does: with which client, of which queries and with which visits. -/
structure Survey (s : System (StateM W)) (a : Arguments) (w : W) (c : Client) (qs : List RuleQuery)
    (vs : List Visit) : Prop where
  configured : configure s.environment a = .ok c
  listed : (listing s a c (opening s c w).2).1 = .ok qs
  audited :
    let after := auditingWatched s a c ⟨(opening s c w).2, []⟩
    after.1 = (auditing s a c (opening s c w).2).1 ∧
      Tour (watched s c) qs (.ofVerdicts .empty) vs after.1.2 ∧
      after.2.acts = vs.flatMap Visit.acts

/-- The results of the audit sum up its visits. -/
theorem auditing_survey {qs : List RuleQuery} {r : Results}
    (hc : configure s.environment a = .ok c) (hl : (listing s a c (opening s c w).2).1 = .ok qs)
    (hr : (auditing s a c (opening s c w).2).1.1 = .ok r) :
    ∃ vs, Survey s a w c qs vs ∧ r.status.Sums vs := by
  -- watched or not, the audit comes to the same results, and watched it is a tour
  let x : Watched W := ⟨(opening s c w).2, []⟩
  obtain ⟨hsame, -⟩ := auditingWatched_mirrors s a c x
  obtain ⟨vs, last, w', ht, hafter⟩ :=
    Audit.run_tour ((surroundings s c).over_records c ⟨s.send, s.note⟩) (x := x) (quietly_eq hl)
      (.ofVerdicts .empty)
  change auditingWatched s a c x = _ at hafter
  have hwatched : (auditingWatched s a c x).1.1 = .ok r := (congrArg (·.1) hsame).trans hr
  rw [hafter] at hwatched
  rw [← Except.ok.inj hwatched]
  refine ⟨vs, ⟨hc, hl, hsame, ?_, ?_⟩, Status.sums ht.reads⟩
  · rw [hafter]
    exact ht
  · rw [hafter]
    exact List.nil_append _

/-! ### Exit codes -/

/-- The program fails, and the line that is to say why is lost. -/
def Speechless (s : System (StateM W)) (a : Arguments) (w : W) : Prop :=
  ∃ e reason, (run s a w).1 = .error e ∧
    (s.writeMessage (e.fatalLine ++ ['\n']) (run s a w).2).1 = some reason

theorem not_speechless (h : ∀ t x, (s.writeMessage t x).1 = none) : ¬ Speechless s a w := by
  rintro ⟨e, reason, -, hlost⟩
  cases (h _ _).symm.trans hlost

theorem execute_speechless (h : Speechless s a w) :
    (execute s a w).1 = Status.speechlessExitCode := by
  obtain ⟨e, reason, hrun, hlost⟩ := h
  rw [execute, stateM_bind_apply, hrun]
  dsimp only
  rw [stateM_bind_apply, hlost]
  rfl

theorem execute_failed {e : Error} (h : (run s a w).1 = .error e) (hspeech : ¬ Speechless s a w) :
    (execute s a w).1 = Status.fatalExitCode := by
  have htold : (s.writeMessage (e.fatalLine ++ ['\n']) (run s a w).2).1 = none := by
    rw [Option.eq_none_iff_forall_ne_some]
    exact fun reason hlost => hspeech ⟨e, reason, h, hlost⟩
  rw [execute, stateM_bind_apply, h]
  dsimp only
  rw [stateM_bind_apply, htold]
  rfl

theorem execute_done {status : Status} (h : (run s a w).1 = .ok status) :
    (execute s a w).1 = status.exitCode := by
  rw [execute, stateM_bind_apply, h]
  rfl

/-- **What the exit code says**: it is two if and only if the program has failed and has said so,
and something else of its own if it could not say so, which does not happen if no message is lost.
Else it says what has become of the rules. -/
theorem execute_exitCode (s : System (StateM W)) (a : Arguments) (w : W) :
    let code := (execute s a w).1
    (code = 2 ↔ Fails s a w ∧ ¬ Speechless s a w) ∧
      (code = 101 ↔ Fails s a w ∧ Speechless s a w) ∧
      ((∀ t x, (s.writeMessage t x).1 = none) → (code = 2 ↔ Fails s a w)) ∧
      (Fails s a w ∨ ∃ c qs vs, Survey s a w c qs vs ∧
        (code = 1 ↔ ∃ v ∈ vs, v.Misses) ∧
        (code = 3 ↔ (¬ ∃ v ∈ vs, v.Misses) ∧ ∃ v ∈ vs, v.FallsShort) ∧
        (code = 0 ↔ ∀ v ∈ vs, v.Passes)) := by
  intro code
  obtain hfails | ⟨c, qs, r, hc, hl, hr, hrun⟩ := run_cases s a w
  · obtain ⟨e, he⟩ := hfails.run_eq_error
    by_cases hspeech : Speechless s a w
    · have hcode : code = 101 := execute_speechless hspeech
      have hlost : ¬ ∀ t x, (s.writeMessage t x).1 = none := fun h => not_speechless h hspeech
      simp [hcode, hfails, hspeech, hlost]
    · have hcode : code = 2 := execute_failed he hspeech
      simp [hcode, hfails, hspeech]
  · have hdone : ¬ Fails s a w := by
      intro hfails
      obtain ⟨e, he⟩ := hfails.run_eq_error
      nomatch hrun.symm.trans he
    obtain ⟨vs, hsurvey, hsums⟩ := auditing_survey hc hl hr
    have hcode : code = r.status.exitCode := execute_done hrun
    have hfatal : code ≠ 2 := hcode ▸ r.status.exitCode_ne_fatal
    have hspeechless : code ≠ 101 := hcode ▸ r.status.exitCode_ne_speechless
    refine ⟨iff_of_false hfatal fun h => hdone h.1, iff_of_false hspeechless fun h => hdone h.1,
      fun _ => iff_of_false hfatal hdone, .inr ⟨c, qs, vs, hsurvey, ?_⟩⟩
    rw [hcode]
    refine ⟨?_, ?_, ?_⟩
    · exact (Status.exitCode_inj r.status .missingMetrics).trans hsums.missing
    · exact (Status.exitCode_inj r.status .incomplete).trans hsums.incomplete
    · exact (Status.exitCode_inj r.status .clean).trans hsums.clean

end

end Program

end RuleAudit
