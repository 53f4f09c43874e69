import RuleAudit.Proofs.Envelope
import RuleAudit.Proofs.Run.Memo

/-!
Audits whose server is on the wire: what has to have come back before a metric counts as missing or
as there, and what becomes of everything else.

* `Reply.Delivers`: the reply is a success with an array of series;
* `Honest`: what is told and remembered rests on such replies, and the rest is told as failures;
* `Audit.run_honest`: every audit over the wire is honest.
-/

namespace RuleAudit

/-! ### Lookups on the wire -/

/-- The reply has a code of success, its envelope reports success, and the data are the array of
these series. -/
def Reply.Delivers (r : Reply) (series : List Series) : Prop :=
  200 ≤ r.code ∧ r.code ≤ 299 ∧ ∃ e, Envelope.read r.text = .ok e ∧
    e.status = ("success" : Text) ∧ e.data = some (seriesValue series)

/-- The act is a request for the series of a metric, with this reply. -/
def Act.LooksUp [Url.Idna] (c : Client) (metric : Text) (reply : Except Outage Reply) (a : Act) :
    Prop :=
  ∃ range request,
    c.request? Client.seriesPath (Lookup.parameters (Lookup.selector metric) range) = some request ∧
      a = .sent request reply

/-- No request for the series of a metric can be made. -/
def Client.Unreachable [Url.Idna] (c : Client) (metric : Text) : Prop :=
  ∃ range, c.request? seriesPath (Lookup.parameters (Lookup.selector metric) range) = none

/-- In the call, the series of the metric have been requested, and these have been delivered. -/
def Call.Shows [Url.Idna] (c : Client) (k : Call) (series : List Series) : Prop :=
  ∃ a reply, k.acts = [a] ∧ a.LooksUp c k.metric (.ok reply) ∧ reply.Delivers series

/-- What a reply to a request for series says, or why there is none. -/
def seriesOf [Wording] : Except Outage Reply → Except Error (List Series)
  | .error outage => .error (.http outage)
  | .ok r => Envelope.accept (.list .textMap) r.code r.text

/-- The account of lookups on the wire: a request with its reply, or nothing if no request can be
made. -/
def Client.account [Url.Idna] [Wording] (c : Client) : Account := fun selector range acts answer =>
  (c.request? seriesPath (Lookup.parameters selector range) = none ∧ acts = [] ∧
      answer = .error (.http (c.unaddressed seriesPath))) ∨
    ∃ request reply, c.request? seriesPath (Lookup.parameters selector range) = some request ∧
      acts = [.sent request reply] ∧ answer = seriesOf reply

theorem seriesOf_eq_ok [Wording] {r : Reply} {series : List Series} :
    seriesOf (.ok r) = .ok series ↔ r.Delivers series := by
  rw [seriesOf, Envelope.accept_eq_ok, Envelope.isSuccess_iff]
  constructor
  · rintro ⟨⟨hlow, hhigh⟩, e, v, hread, hstatus, hdata, hv⟩
    refine ⟨hlow, hhigh, e, hread, hstatus, ?_⟩
    rw [hdata, Json.Decoder.list_textMap_eq_ok.1 hv]
  · rintro ⟨hlow, hhigh, e, hread, hstatus, hdata⟩
    refine ⟨⟨hlow, hhigh⟩, e, seriesValue series, hread, hstatus, hdata, ?_⟩
    exact Json.Decoder.list_textMap_eq_ok.2 rfl

/-- A lookup that is answered shows what the answer says. -/
theorem Call.Answered.shows [Url.Idna] [Wording] {c : Client} {k : Call} {series : List Series}
    (h : k.Answered c.account series) : k.Shows c series := by
  obtain ⟨range, ⟨-, -, h⟩ | ⟨request, reply, hrequest, hacts, h⟩⟩ := h
  · nomatch h
  · cases reply with
    | error outage => nomatch h
    | ok r =>
      exact ⟨_, r, hacts, ⟨range, request, hrequest, rfl⟩, seriesOf_eq_ok.1 h.symm⟩

theorem Client.account_acts [Url.Idna] [Wording] {c : Client} {metric : Text} {range : TimeRange}
    {acts : List Act} {answer : Except Error (List Series)}
    (h : c.account (Lookup.selector metric) range acts answer) :
    (acts = [] ∧ c.Unreachable metric) ∨
      ∃ a reply, acts = [a] ∧ a.LooksUp c metric reply := by
  obtain ⟨hrequest, rfl, -⟩ | ⟨request, reply, hrequest, rfl, -⟩ := h
  · exact .inl ⟨rfl, range, hrequest⟩
  · exact .inr ⟨_, reply, rfl, range, request, hrequest, rfl⟩

section

variable {W : Type}

theorem Surroundings.Records.over {s : Surroundings (StateM (Watched W))}
    {account account' : Account} (h : s.Records account) {b : Backend (StateM (Watched W))}
    (hb : ∀ selector range x, ∃ acts, (b.series selector range x).2.acts = x.acts ++ acts ∧
      account' selector range acts (b.series selector range x).1)
    (huntold : ∀ {selector range acts answer}, account' selector range acts answer →
      told acts = []) :
    (s.over b).Records account' :=
  ⟨hb, h.now, h.note, h.tell, huntold⟩

variable [Url.Idna] [Wording]

theorem Client.ask_unsent {α : Type} {c : Client} {path : Text} {ps : List (Text × Text)}
    (h : c.request? path ps = none) (wire : Wire (StateM W)) (decode : Json.Decoder α)
    (x : Watched W) :
    ∃ w, c.ask wire.watched decode path ps x =
      (.error (.http (c.unaddressed path)), ⟨w, x.acts⟩) := by
  refine ⟨(wire.note (.request (c.config.endpoint path) ps) x.world).2, ?_⟩
  unfold ask
  rw [stateM_bind_apply, h]
  rfl

theorem Client.ask_sent {α : Type} {c : Client} {path : Text} {ps : List (Text × Text)}
    {request : Request} (h : c.request? path ps = some request) (wire : Wire (StateM W))
    (decode : Json.Decoder α) (x : Watched W) :
    ∃ reply w, c.ask wire.watched decode path ps x =
      ((match reply with
        | .error outage => .error (.http outage)
        | .ok r => Envelope.accept decode r.code r.text),
       ⟨w, x.acts ++ [.sent request reply]⟩) := by
  let w := (wire.note (.request (c.config.endpoint path) ps) x.world).2
  unfold ask
  rw [stateM_bind_apply, h]
  dsimp only
  rw [stateM_bind_apply]
  have hwatched : wire.watched.send request
      (wire.watched.note (.request (c.config.endpoint path) ps) x).2 =
      ((wire.send request w).1,
        ⟨(wire.send request w).2, x.acts ++ [.sent request (wire.send request w).1]⟩) := rfl
  rcases hsend : wire.send request w with ⟨reply, w'⟩
  refine ⟨reply, w', ?_⟩
  rw [hwatched, hsend]
  cases reply <;> rfl

/-- What is written down when series are asked for on the wire. -/
theorem Client.series_account (c : Client) (wire : Wire (StateM W)) (selector : Text)
    (range : TimeRange) (x : Watched W) :
    ∃ acts, ((c.backend wire.watched).series selector range x).2.acts = x.acts ++ acts ∧
      c.account selector range acts ((c.backend wire.watched).series selector range x).1 := by
  dsimp only [backend]
  cases hr : c.request? seriesPath (Lookup.parameters selector range) with
  | none =>
    obtain ⟨w, hask⟩ := ask_unsent hr wire (.list .textMap) x
    rw [hask]
    exact ⟨[], (List.append_nil _).symm, .inl ⟨hr, rfl, rfl⟩⟩
  | some request =>
    obtain ⟨reply, w, hask⟩ := ask_sent hr wire (.list .textMap) x
    rw [hask]
    refine ⟨[.sent request reply], rfl, .inr ⟨request, reply, hr, rfl, ?_⟩⟩
    cases reply <;> rfl

theorem Surroundings.over_records (s : Surroundings (StateM W)) (c : Client)
    (wire : Client.Wire (StateM W)) :
    (s.watched.over (c.backend wire.watched)).Records c.account := by
  refine s.watched_records.over (c.series_account wire) ?_
  rintro _ _ _ _ (⟨-, rfl, -⟩ | ⟨_, _, -, rfl, -⟩) <;> rfl

end

/-! ### Honesty -/

/-- What an audit over the wire tells and remembers rests on what has been delivered: the visits of
the audit, the checker at its end, and what has been written down about it. -/
structure Honest [Url.Idna] (c : Client) (vs : List Visit) (last : Checker) (acts : List Act) :
    Prop where
  /-- A metric is told to be missing only after a lookup of it has delivered the empty array. -/
  missing : ∀ {before f rest}, acts = before ++ .told (.finding f) :: rest →
    ∃ a ∈ before, ∃ reply, a.LooksUp c f.metric (.ok reply) ∧ reply.Delivers []
  /-- A metric counts as there only if a lookup of it, in this call or before, has delivered some
  series. -/
  existing : ∀ {earlier k later}, vs.flatMap Visit.calls = earlier ++ k :: later →
    k.result = .ok true →
    ∃ j ∈ earlier ++ [k], j.metric = k.metric ∧ ∃ series, j.Shows c series ∧ series ≠ []
  /-- Every verdict that remains is what a lookup has delivered. -/
  remembered : ∀ metric found, last.verdicts.get? metric = some found →
    ∃ k ∈ vs.flatMap Visit.calls, k.metric = metric ∧
      ∃ series, k.Shows c series ∧ found = !series.isEmpty
  /-- A lookup is one request for the series of the metric, if a request can be made. -/
  lookups : ∀ k ∈ vs.flatMap Visit.calls, k.before.verdicts.get? k.metric = none →
    (k.acts = [] ∧ c.Unreachable k.metric) ∨
      ∃ a reply, k.acts = [a] ∧ a.LooksUp c k.metric reply
  /-- A lookup that delivers no array of series is followed by one event, the failure to look the
  metric up, and nothing is remembered of it. -/
  failed : ∀ v ∈ vs, ∀ k ∈ v.calls, k.before.verdicts.get? k.metric = none →
    (∀ series, ¬ k.Shows c series) →
    ∃ cause, k.actsFor v.query =
        k.acts ++ [.told (.diagnostic (.of v.query (.metricLookup k.metric cause)))] ∧
      (Error.metricLookup k.metric cause).code = "METRIC_LOOKUP_FAILED" ∧
      k.after.verdicts = k.before.verdicts

section

variable [Url.Idna] [Wording] {W : Type} {s : Surroundings (StateM (Watched W))} {c : Client}

/-- The call after which a finding has been told. -/
theorem Visit.finding_call (hs : s.Records c.account) {v : Visit}
    (hv : ∀ k ∈ v.calls, k.Happens s) {before rest : List Act} {f : Finding}
    (h : v.acts = before ++ .told (.finding f) :: rest) :
    ∃ ks k ls, v.calls = ks ++ k :: ls ∧ k.result = .ok false ∧ k.metric = f.metric ∧
      before = ks.flatMap (Call.actsFor v.query) ++ k.acts := by
  rcases v with ⟨q, message | calls⟩
  · rcases before with _ | ⟨a, before⟩ <;> simp [acts] at h
  · obtain ⟨ks, k, ls, p, p', rfl, hk, rfl, -⟩ := flatMap_eq_append_cons h
    have hlegal := (hv k (by simp [Visit.calls])).legal hs
    obtain ⟨he, rfl⟩ := Call.event_of_actsFor (hlegal.untold hs) hk
    obtain ⟨hr, rfl⟩ := Call.result_of_finding he
    exact ⟨ks, k, ls, rfl, hr, rfl, rfl⟩

theorem Tour.finding_call (hs : s.Records c.account) {qs : List RuleQuery} {c₀ c₁ : Checker}
    {vs : List Visit} (ht : Tour s qs c₀ vs c₁) {before rest : List Act} {f : Finding}
    (h : vs.flatMap Visit.acts = before ++ .told (.finding f) :: rest) :
    ∃ ks k ls, vs.flatMap Visit.calls = ks ++ k :: ls ∧ k.result = .ok false ∧
      k.metric = f.metric ∧ ∀ j ∈ ks ++ [k], j.acts ⊆ before := by
  obtain ⟨vs₁, v, vs₂, p, p', rfl, hv, rfl, -⟩ := flatMap_eq_append_cons h
  have hcalls : ∀ k ∈ v.calls, k.Happens s := fun k hk =>
    ht.session.happens k (List.mem_flatMap.2 ⟨v, by simp, hk⟩)
  obtain ⟨ks, k, ls, hks, hr, hm, rfl⟩ := Visit.finding_call hs hcalls hv
  refine ⟨vs₁.flatMap Visit.calls ++ ks, k, ls ++ vs₂.flatMap Visit.calls, ?_, hr, hm, ?_⟩
  · simp [hks]
  · intro j hj a ha
    simp only [List.mem_append, List.mem_flatMap, List.mem_singleton] at hj ⊢
    obtain (⟨u, hu, hju⟩ | hjk) | rfl := hj
    · exact .inl ⟨u, hu, Visit.calls_acts hju ha⟩
    · exact .inr (.inl ⟨j, hjk, List.mem_append_left _ ha⟩)
    · exact .inr (.inr ha)

/-- An audit over the wire that starts without verdicts is honest. -/
theorem Tour.honest (hs : s.Records c.account) {qs : List RuleQuery} {last : Checker}
    {vs : List Visit} (ht : Tour s qs (.ofVerdicts .empty) vs last) :
    Honest c vs last (vs.flatMap Visit.acts) where
  missing := by
    intro before f rest h
    -- the finding follows a call, the call rests on an answer, and the answer on what it shows
    obtain ⟨ks, k, ls, hks, hr, hm, hacts⟩ := ht.finding_call hs h
    have hsession := ht.session
    rw [hks] at hsession
    obtain ⟨j, hj, hjm, series, ha, hfound⟩ := hsession.grounds hs rfl hr
    obtain ⟨a, reply, hja, hlook, hdelivers⟩ := ha.shows
    cases series with
    | cons => nomatch hfound
    | nil =>
      rw [hjm, hm] at hlook
      exact ⟨a, hacts j hj (by simp [hja]), reply, hlook, hdelivers⟩
  existing := by
    intro earlier k later h hr
    have hsession := ht.session
    rw [h] at hsession
    obtain ⟨j, hj, hjm, series, ha, hfound⟩ := hsession.grounds hs rfl hr
    refine ⟨j, hj, hjm, series, ha.shows, ?_⟩
    rintro rfl
    nomatch hfound
  remembered metric found h := by
    obtain ⟨k, hk, hm, series, ha, hfound⟩ := ht.session.origin hs rfl h
    exact ⟨k, hk, hm, series, ha.shows, hfound⟩
  lookups k hk hv := by
    cases (ht.session.happens k hk).legal hs with
    | known hv' => exact absurd (hv'.symm.trans hv) (by simp)
    | failed _ ha => exact Client.account_acts ha
    | answered _ ha => exact Client.account_acts ha
  failed v hv k hk hunknown hnot := by
    have hlegal := (ht.session.happens k (List.mem_flatMap.2 ⟨v, hv, hk⟩)).legal hs
    obtain ⟨cause, hr, hkeep⟩ :=
      hlegal.of_unanswered hunknown fun series h => hnot series h.shows
    refine ⟨cause, ?_, rfl, hkeep⟩
    rw [Call.actsFor, Call.event?, hr]
    rfl

end

/-- **No failure is taken for a verdict**: whatever replies an audit over the wire gets, it is
honest, and its results are what it has told. -/
theorem Audit.run_honest [Url.Idna] [Wording] {W : Type} (s : Surroundings (StateM W)) (c : Client)
    (wire : Client.Wire (StateM W)) (source : StateM W (Except Error (List RuleQuery))) (w : W) :
    let near := s.watched.over (c.backend wire.watched)
    let after := run near (quietly source) (.ofVerdicts .empty) ⟨w, []⟩
    after.1 = (run (s.over (c.backend wire)) source (.ofVerdicts .empty) w).1 ∧
      ∃ vs, Tour near ((source w).1.toOption.getD []) (.ofVerdicts .empty) vs after.1.2 ∧
        after.2.acts = vs.flatMap Visit.acts ∧ Honest c vs after.1.2 after.2.acts ∧
        ∀ r, after.1.1 = .ok r →
          r.findings = (told after.2.acts).filterMap Event.finding? ∧
            r.diagnostics = (told after.2.acts).filterMap Event.diagnostic? := by
  intro near after
  have hs := s.over_records c wire
  obtain ⟨vs, ht, hacts, hresults⟩ := run_quietly hs source (.ofVerdicts .empty) ⟨w, []⟩
  rw [List.nil_append] at hacts
  refine ⟨(run_mirrors (s.over_mirror c wire) source _ ⟨w, []⟩).1, vs, ht, hacts, ?_, ?_⟩
  · rw [show after.2.acts = _ from hacts]
    exact ht.honest hs
  · intro r hr
    rw [hresults r hr, show after.2.acts = _ from hacts, ht.told_acts hs]
    exact ⟨rfl, rfl⟩

end RuleAudit
