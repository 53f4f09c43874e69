import Mathlib.Data.List.Forall2
import Mathlib.Data.List.Zip
import RuleAudit.Proofs.Query.Selection
import RuleAudit.Proofs.Run.Beside
import RuleAudit.Proofs.Run.Memo

/-!
What is told in the course of an audit, and when: nothing is lost, nothing is told twice, and
nothing is told out of order.

* `Spot`, `Event.About`: where an event stands, and what it is about;
* `Chronicle`: what is written down about the visits of an audit;
* `Audit.run_chronicle`: every audit keeps to its chronicle, whoever is told.
-/

namespace RuleAudit

/-! ### Spots -/

/-- Where an event stands: the number of its query, and its metric if it is about one. -/
structure Spot where
  query : Nat
  metric : Option Text

/-- The strict order of spots: by queries as they are listed, and then by metrics as texts. A spot
without a metric shares its query with no other. -/
def Spot.Before (a b : Spot) : Prop :=
  a.query < b.query ∨
    a.query = b.query ∧ ∃ m n, a.metric = some m ∧ b.metric = some n ∧ m < n

/-- What an event says about a query: that the text is none, or that a metric of it is missing or
could not be looked up. -/
inductive Event.About (q : RuleQuery) : Option Text → Event → Prop
  | unreadable {message : Text} (h : Query.parse q.query = .error message) :
    About q none (.diagnostic (.of q (.parse q.query message)))
  | missing (metric : Text) : About q (some metric) (.finding (.of q metric))
  | failed (metric : Text) (cause : Error) :
    About q (some metric) (.diagnostic (.of q (.metricLookup metric cause)))

/-- The events stand at spots that strictly increase, each with the query that has its number. -/
def InOrder (qs : List RuleQuery) (es : List Event) : Prop :=
  ∃ spots : List Spot, spots.Pairwise Spot.Before ∧
    List.Forall₂ (fun spot e => ∃ q, qs[spot.query]? = some q ∧ e.About q spot.metric) spots es

/-! ### The events of visits at their spots -/

/-- The events of a visit, each at its spot. -/
def Visit.marks (v : Visit) (i : Nat) : List (Spot × Event) :=
  match v.found with
  | .error message => [(⟨i, none⟩, .diagnostic (.of v.query (.parse v.query.query message)))]
  | .ok ks => ks.filterMap fun k => (k.event? v.query).map (Prod.mk ⟨i, some k.metric⟩)

/-- The events of visits, each at its spot. -/
def marksOf (vs : List Visit) : List (Spot × Event) := vs.zipIdx.flatMap fun (v, i) => v.marks i

theorem Visit.map_snd_marks (v : Visit) (i : Nat) :
    (v.marks i).map Prod.snd = v.outcome.events v.query := by
  rcases v with ⟨q, message | ks⟩
  · rfl
  · rw [events_outcome, marks, List.map_filterMap]
    refine List.filterMap_congr fun k _ => ?_
    rw [Option.map_map]
    exact Option.map_id_apply

theorem map_snd_marksOf (vs : List Visit) :
    (marksOf vs).map Prod.snd = (outcomesOf vs).events := by
  have hmarks : ∀ p ∈ vs.zipIdx, (p.1.marks p.2).map Prod.snd = p.1.outcome.events p.1.query :=
    fun p _ => p.1.map_snd_marks p.2
  rw [marksOf, List.map_flatMap, List.flatMap_congr hmarks, Outcomes.events, outcomesOf,
    List.flatMap_map]
  conv_rhs => rw [← List.zipIdx_map_fst 0 vs, List.flatMap_map]

theorem Visit.query_of_mem_marks {v : Visit} {i : Nat} {m : Spot × Event} (h : m ∈ v.marks i) :
    m.1.query = i := by
  rcases v with ⟨q, message | ks⟩
  · rw [List.mem_singleton.1 h]
  · obtain ⟨k, -, hk⟩ := List.mem_filterMap.1 h
    obtain ⟨e, -, rfl⟩ := Option.map_eq_some_iff.1 hk
    rfl

theorem Visit.marks_pairwise {v : Visit} (h : v.Reads) (i : Nat) :
    (v.marks i).Pairwise fun m n => m.1.Before n.1 := by
  obtain ⟨message, hv, -⟩ | ⟨ks, e, hv, -, hm⟩ := h.cases
  · rw [marks, hv]
    exact List.pairwise_singleton _ _
  · -- the metrics of an expression increase, and the spots go by the metrics
    have hmetrics : (ks.map Call.metric).Pairwise (· < ·) := by
      rw [hm]
      exact Text.pairwise_sortedSet _
    rw [List.pairwise_map] at hmetrics
    rw [marks, hv, List.pairwise_filterMap]
    refine hmetrics.imp fun {k l} hkl m hk n hl => ?_
    obtain ⟨e, -, rfl⟩ := Option.map_eq_some_iff.1 hk
    obtain ⟨e', -, rfl⟩ := Option.map_eq_some_iff.1 hl
    exact .inr ⟨rfl, k.metric, l.metric, rfl, rfl, hkl⟩

theorem zipIdx_pairwise_lt {α : Type} (as : List α) :
    as.zipIdx.Pairwise fun p p' => p.2 < p'.2 := by
  rw [← List.pairwise_map, List.zipIdx_map_snd]
  exact List.pairwise_lt_range'

theorem marksOf_pairwise {vs : List Visit} (h : ∀ v ∈ vs, v.Reads) :
    (marksOf vs).Pairwise fun m n => m.1.Before n.1 := by
  rw [marksOf, List.pairwise_flatMap]
  constructor
  · rintro ⟨v, i⟩ hv
    exact Visit.marks_pairwise (h v (List.mem_of_getElem? (List.mem_zipIdx_iff_getElem?.1 hv))) i
  · refine (zipIdx_pairwise_lt vs).imp fun {p p'} hlt m hm n hn => .inl ?_
    rw [Visit.query_of_mem_marks hm, Visit.query_of_mem_marks hn]
    exact hlt

section

variable {W : Type} {s : Surroundings (StateM (Watched W))} {account : Account}

/-- What is told after a call is about the query and the metric of the call. -/
theorem Call.Legal.about {k : Call} (h : k.Legal account) {q : RuleQuery} {e : Event}
    (he : k.event? q = some e) : e.About q (some k.metric) := by
  cases hr : k.result with
  | error e' =>
    obtain ⟨cause, -, rfl, -, -⟩ := h.of_error hr
    rw [event?, hr] at he
    obtain rfl : Event.diagnostic _ = e := Option.some.inj he
    exact .failed _ _
  | ok found =>
    rw [event?, hr] at he
    cases found with
    | true => nomatch he
    | false =>
      obtain rfl : Event.finding _ = e := Option.some.inj he
      exact .missing _

theorem Visit.about {v : Visit} (h : v.Reads) (hcalls : ∀ k ∈ v.calls, k.Legal account) {i : Nat}
    {m : Spot × Event} (hm : m ∈ v.marks i) : m.2.About v.query m.1.metric := by
  obtain ⟨message, hv, hq⟩ | ⟨ks, e, hv, -, -⟩ := h.cases
  · rw [marks, hv] at hm
    rw [List.mem_singleton.1 hm]
    exact .unreadable hq
  · rw [marks, hv] at hm
    obtain ⟨k, hk, hkm⟩ := List.mem_filterMap.1 hm
    obtain ⟨e', he', rfl⟩ := Option.map_eq_some_iff.1 hkm
    have hmem : k ∈ v.calls := by
      rw [calls, hv]
      exact hk
    exact (hcalls k hmem).about he'

/-- The events of a tour are in order. -/
theorem Tour.inOrder (hs : s.Records account) {qs : List RuleQuery} {c c' : Checker}
    {vs : List Visit} (h : Tour s qs c vs c') : InOrder qs (outcomesOf vs).events := by
  refine ⟨(marksOf vs).map Prod.fst, ?_, ?_⟩
  · rw [List.pairwise_map]
    exact marksOf_pairwise h.reads
  · rw [← map_snd_marksOf, List.forall₂_map_left_iff, List.forall₂_map_right_iff,
      List.forall₂_same]
    intro m hm
    obtain ⟨⟨v, i⟩, hv, hmark⟩ := List.mem_flatMap.1 hm
    have hvi : vs[i]? = some v := List.mem_zipIdx_iff_getElem?.1 hv
    have hmem : v ∈ vs := List.mem_of_getElem? hvi
    refine ⟨v.query, ?_, Visit.about (h.reads v hmem) (h.legal hs v hmem) hmark⟩
    rw [Visit.query_of_mem_marks hmark, ← h.queries, List.getElem?_map, hvi]
    rfl

/-! ### Chronicles -/

/-- What is written down about an audit of queries: the visits, and all acts in order. -/
structure Chronicle (qs : List RuleQuery) (vs : List Visit) (acts : List Act) : Prop where
  /-- The queries are visited one after another, and nothing happens besides. -/
  visits : vs.map Visit.query = qs ∧ acts = vs.flatMap Visit.acts
  /-- If the text of a rule is no query, that is told once, and nothing else happens. -/
  unreadable : ∀ v ∈ vs, ∀ message, Query.parse v.query.query = .error message →
    v.calls = [] ∧ v.acts = [.told (.diagnostic
      ⟨v.query.file, v.query.group, v.query.rule, v.query.kind, v.query.query,
        ⟨"PARSE_ERROR", (Error.parse v.query.query message).message, none⟩⟩)]
  /-- If it is one, there is one call for each of its metrics, and nothing else happens. -/
  readable : ∀ v ∈ vs, ∀ e, Query.parse v.query.query = .ok e →
    v.calls.map Call.metric = e.metrics ∧ e.metrics.Nodup ∧
      v.acts = v.calls.flatMap (Call.actsFor v.query)
  /-- About a metric that exists, nothing is told. -/
  existing : ∀ v ∈ vs, ∀ k ∈ v.calls, k.result = .ok true → told (k.actsFor v.query) = []
  /-- About a metric that is missing, one finding is told. -/
  missing : ∀ v ∈ vs, ∀ k ∈ v.calls, k.result = .ok false →
    told (k.actsFor v.query) =
      [.finding ⟨v.query.group, v.query.rule, v.query.query, k.metric⟩]
  /-- About a metric that cannot be looked up, one diagnostic is told. -/
  failed : ∀ v ∈ vs, ∀ k ∈ v.calls, ∀ e, k.result = .error e →
    told (k.actsFor v.query) = [.diagnostic
      ⟨v.query.file, v.query.group, v.query.rule, v.query.kind, v.query.query,
        ⟨"METRIC_LOOKUP_FAILED", e.message, some k.metric⟩⟩]
  /-- All in all, what is told is in order. -/
  ordered : InOrder qs (told acts)

theorem Call.Legal.told_actsFor (hs : s.Records account) {k : Call} (h : k.Legal account)
    (q : RuleQuery) : told (k.actsFor q) = (k.event? q).toList := by
  rw [actsFor, told_append, h.untold hs, told_map_told, List.nil_append]

theorem Tour.chronicle (hs : s.Records account) {qs : List RuleQuery} {c c' : Checker}
    {vs : List Visit} (h : Tour s qs c vs c') : Chronicle qs vs (vs.flatMap Visit.acts) where
  visits := ⟨h.queries, rfl⟩
  unreadable := by
    intro v hv message hq
    obtain ⟨message', hf, hq'⟩ | ⟨ks, e, -, hq', -⟩ := (h.reads v hv).cases
    · obtain rfl : message' = message := Except.error.inj (hq'.symm.trans hq)
      rw [Visit.calls, Visit.acts, hf]
      exact ⟨rfl, rfl⟩
    · cases hq'.symm.trans hq
  readable := by
    intro v hv e hq
    obtain ⟨message, -, hq'⟩ | ⟨ks, e', hf, hq', hm⟩ := (h.reads v hv).cases
    · cases hq'.symm.trans hq
    · obtain rfl : e' = e := Except.ok.inj (hq'.symm.trans hq)
      rw [Visit.calls, Visit.acts, hf]
      exact ⟨hm, e'.nodup_metrics, rfl⟩
  existing := by
    intro v hv k hk hr
    rw [(h.legal hs v hv k hk).told_actsFor hs, Call.event?, hr]
    rfl
  missing := by
    intro v hv k hk hr
    rw [(h.legal hs v hv k hk).told_actsFor hs, Call.event?, hr]
    rfl
  failed := by
    intro v hv k hk e hr
    obtain ⟨cause, -, rfl, -, -⟩ := (h.legal hs v hv k hk).of_error hr
    rw [(h.legal hs v hv k hk).told_actsFor hs, Call.event?, hr]
    rfl
  ordered := by
    rw [h.told_acts hs]
    exact h.inOrder hs

end

/-- **Nothing is lost, told twice or told out of order**: an audit that starts with any checker
keeps to its chronicle, its results are what it has told, and for its results, its checker and the
server it makes no difference who is told. -/
theorem Audit.run_chronicle {W : Type} (s : Surroundings (StateM W))
    (source : StateM W (Except Error (List RuleQuery))) (c : Checker) (w : W) :
    let after := run s.watched (quietly source) c ⟨w, []⟩
    after.1 = (run s source c w).1 ∧
      (∃ vs, Tour s.watched ((source w).1.toOption.getD []) c vs after.1.2 ∧
        Chronicle ((source w).1.toOption.getD []) vs after.2.acts ∧
        ∀ r, after.1.1 = .ok r →
          r.findings = (told after.2.acts).filterMap Event.finding? ∧
            r.diagnostics = (told after.2.acts).filterMap Event.diagnostic?) ∧
      ∀ {K L : Type} (sink : Sink K) (sink' : Sink L) (k : K) (l : L),
        let one := run (s.toldTo sink).watched (quietly (inside source)) c ⟨(w, k), []⟩
        let other := run (s.toldTo sink').watched (quietly (inside source)) c ⟨(w, l), []⟩
        one.1 = other.1 ∧ one.2.acts = other.2.acts ∧ one.2.world.1 = other.2.world.1 := by
  intro after
  have hs := s.watched_records
  refine ⟨(run_mirrors s.watched_mirror source c ⟨w, []⟩).1, ?_, ?_⟩
  · obtain ⟨vs, ht, hacts, hresults⟩ := run_quietly hs source c ⟨w, []⟩
    rw [List.nil_append] at hacts
    refine ⟨vs, ht, ?_, ?_⟩
    · rw [show after.2.acts = _ from hacts]
      exact ht.chronicle hs
    · intro r hr
      rw [hresults r hr, show after.2.acts = _ from hacts, ht.told_acts hs]
      exact ⟨rfl, rfl⟩
  · intro K L sink sink' k l one other
    have hsource : Alike (Watched.Level (SameInside (K := K) (L := L)))
        (quietly (inside source)) (quietly (inside source)) := (inside_alike source).quietly
    obtain ⟨hresult, hworld, hacts⟩ :=
      run_alike (s.toldTo_akin sink sink').watched hsource c ⟨(w, k), []⟩ ⟨(w, l), []⟩ ⟨rfl, rfl⟩
    exact ⟨hresult, hacts, hworld⟩

end RuleAudit
