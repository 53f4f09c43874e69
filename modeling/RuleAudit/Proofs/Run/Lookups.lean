import RuleAudit.Proofs.Endpoint
import RuleAudit.Proofs.Query.Selection
import RuleAudit.Proofs.Run.Wire

/-!
Which requests an audit over the wire sends: one for each reference of a rule to a metric, unless an
earlier one has told all about the metric.

* `Reference`: a reference, and the request that has been sent for it, if any;
* `Lookups`: which references have a request, and which request that is;
* `Tour.references`: the requests of an audit are those of its references.
-/

namespace RuleAudit

/-! ### References -/

/-- A request with the reply to it, or why there is none. -/
abbrev Exchange := Request × Except Outage Reply

/-- The request of an act that sends one. -/
def Act.exchange? : Act → Option Exchange
  | sent request reply => some (request, reply)
  | _ => none

/-- A reference of a rule to a metric, and the request that has been sent for it, if any. -/
structure Reference where
  metric : Text
  exchange : Option Exchange

/-- The request for the reference has been answered, with the series of the metric. -/
def Reference.IsAnswered (r : Reference) : Prop :=
  ∃ request reply series, r.exchange = some (request, .ok reply) ∧ reply.Delivers series

/-- The request for the series of a metric up to an instant. -/
def Client.lookup? [Url.Idna] (c : Client) (metric : Text) (stop : Instant) : Option Request :=
  c.request? seriesPath
    [("match[]", Lookup.selector metric), ("start", "0001-01-01T00:00:00.000Z"),
     ("end", stop.render), ("limit", "1")]

/-- What is sent for references to these metrics, one after another. -/
structure Lookups [Url.Idna] (c : Client) (metrics : List Text) (exchanges : List Exchange)
    (rs : List Reference) : Prop where
  metrics : rs.map Reference.metric = metrics
  exchanges : rs.filterMap Reference.exchange = exchanges
  /-- No request is sent if and only if one for the same metric has been answered before. -/
  spared : ∀ {before r after}, rs = before ++ r :: after →
    (r.exchange = none ↔ ∃ p ∈ before, p.metric = r.metric ∧ p.IsAnswered)
  /-- A request is one for all series of the metric, of which one is enough. -/
  requests : ∀ r ∈ rs, ∀ request reply, r.exchange = some (request, reply) →
    ∃ stop, c.lookup? r.metric stop = some request

theorem RuleQuery.metrics_sorted (q : RuleQuery) : q.metrics.Pairwise (· < ·) := by
  unfold metrics
  cases Query.parse q.query with
  | error message => exact .nil
  | ok e => exact Text.pairwise_sortedSet _

/-! ### Calls -/

/-- The reference for which a call is made. -/
def Call.reference (k : Call) : Reference := ⟨k.metric, k.acts.findSome? Act.exchange?⟩

theorem Client.lookup?_eq [Url.Idna] (c : Client) (metric : Text) (stop : Instant) :
    c.lookup? metric stop =
      c.request? seriesPath (Lookup.parameters (Lookup.selector metric) (.lifetimeUntil stop)) := by
  have hstart : Instant.earliest.render = "0001-01-01T00:00:00.000Z" := by decide
  have hlimit : Text.decimal Lookup.limit = "1" := by decide
  rw [lookup?, Lookup.parameters, TimeRange.lifetimeUntil, hstart, hlimit]

section

variable [Url.Idna] [Wording] {W : Type} {s : Surroundings (StateM (Watched W))} {c : Client}

/-- A call for a metric with a verdict sends nothing; any other sends one request, and is counted as
a lookup. -/
theorem Call.Legal.exchange (hc : c.config.baseUrl.Sound) {k : Call} (h : k.Legal c.account) :
    ((∃ found, k.before.verdicts.get? k.metric = some found) ∧ k.acts = [] ∧
        k.after.lookups = k.before.lookups) ∨
      ∃ stop request reply, k.before.verdicts.get? k.metric = none ∧
        c.lookup? k.metric stop = some request ∧ k.acts = [.sent request reply] ∧
        k.after.lookups = k.before.lookups + 1 := by
  have hsent : ∀ {metric : Text} {now : Instant} {acts : List Act} {answer},
      c.account (Lookup.selector metric) (.lifetimeUntil now) acts answer →
        ∃ request reply, c.lookup? metric now = some request ∧ acts = [.sent request reply] := by
    intro metric now acts answer ha
    rw [Client.lookup?_eq]
    obtain ⟨hnone, -, -⟩ | ⟨request, reply, hrequest, hacts, -⟩ := ha
    · -- there is such a request, because the address of the server is one
      obtain ⟨r, hr⟩ := Client.request?_series hc
        (Lookup.parameters (Lookup.selector metric) (.lifetimeUntil now))
      nomatch hnone.symm.trans hr
    · exact ⟨request, reply, hrequest, hacts⟩
  cases h with
  | known hv => exact .inl ⟨⟨_, hv⟩, rfl, rfl⟩
  | failed hv ha =>
    obtain ⟨request, reply, hrequest, hacts⟩ := hsent ha
    exact .inr ⟨_, request, reply, hv, hrequest, hacts, rfl⟩
  | answered hv ha =>
    obtain ⟨request, reply, hrequest, hacts⟩ := hsent ha
    exact .inr ⟨_, request, reply, hv, hrequest, hacts, rfl⟩

theorem Call.Legal.filterMap_acts (hc : c.config.baseUrl.Sound) {k : Call}
    (h : k.Legal c.account) :
    k.acts.filterMap Act.exchange? = k.reference.exchange.toList := by
  obtain ⟨-, hacts, -⟩ | ⟨_, _, _, -, -, hacts, -⟩ := h.exchange hc
  · rw [reference, hacts]
    rfl
  · rw [reference, hacts]
    rfl

theorem Call.Legal.lookups_exchange (hc : c.config.baseUrl.Sound) {k : Call}
    (h : k.Legal c.account) :
    k.after.lookups = k.before.lookups + k.reference.exchange.toList.length := by
  obtain ⟨-, hacts, hl⟩ | ⟨_, _, _, -, -, hacts, hl⟩ := h.exchange hc
  · rw [hl, reference, hacts]
    rfl
  · rw [hl, reference, hacts]
    rfl

theorem Call.Answered.isAnswered {k : Call} {series : List Series}
    (h : k.Answered c.account series) : k.reference.IsAnswered := by
  obtain ⟨_, reply, hacts, ⟨_, request, -, rfl⟩, hdelivers⟩ := h.shows
  refine ⟨request, reply, series, ?_, hdelivers⟩
  rw [Call.reference, hacts]
  rfl

/-- After a request that has been answered, there is a verdict. -/
theorem Call.Legal.verdict_of_isAnswered (hc : c.config.baseUrl.Sound) {k : Call}
    (h : k.Legal c.account) (ha : k.reference.IsAnswered) :
    ∃ found, k.after.verdicts.get? k.metric = some found := by
  obtain ⟨request, reply, series, hexchange, hdelivers⟩ := ha
  have hacts := h.filterMap_acts hc
  rw [hexchange] at hacts
  cases h with
  | known hv => exact ⟨_, hv⟩
  | answered hv => exact ⟨_, Verdicts.get?_put_self _ _ _⟩
  | failed hv ha =>
    -- the failure would have been told by a reply that delivers the series
    obtain ⟨-, rfl, -⟩ | ⟨_, reply', -, rfl, hanswer⟩ := ha
    · nomatch hacts
    · obtain ⟨-, rfl⟩ := Prod.mk.inj (List.cons.inj hacts).1
      nomatch hanswer.trans (seriesOf_eq_ok.2 hdelivers)

/-! ### Sessions and tours -/

namespace Session

/-- **Which calls send nothing**: those for a metric for which a request has been answered in an
earlier call. -/
theorem exchange_eq_none_iff (hs : s.Records c.account) (hc : c.config.baseUrl.Sound)
    {earlier later : List Call} {k : Call} {last : Checker}
    (h : Session s (.ofVerdicts .empty) (earlier ++ k :: later) last) :
    k.reference.exchange = none ↔
      ∃ j ∈ earlier, j.metric = k.metric ∧ j.reference.IsAnswered := by
  obtain ⟨hearlier, hk, -⟩ := h.around
  have hlegal := hk.legal hs
  constructor
  · intro hnone
    obtain ⟨⟨found, hv⟩, -⟩ | ⟨_, _, _, -, -, hacts, -⟩ := hlegal.exchange hc
    · obtain ⟨j, hj, hm, series, ha, -⟩ := hearlier.origin hs rfl hv
      exact ⟨j, hj, hm, ha.isAnswered⟩
    · rw [Call.reference, hacts] at hnone
      nomatch hnone
  · rintro ⟨j, hj, hm, ha⟩
    obtain ⟨ks, ls, rfl⟩ := List.append_of_mem hj
    obtain ⟨-, hjk, hbetween⟩ := hearlier.around
    obtain ⟨found, hv⟩ := (hjk.legal hs).verdict_of_isAnswered hc ha
    rw [hm] at hv
    rw [Call.reference, (hlegal.of_known (hbetween.within hs _ _ hv)).1]
    rfl

/-- The requests of a session are those of its references. -/
theorem references (hs : s.Records c.account) (hc : c.config.baseUrl.Sound) {ks : List Call}
    {last : Checker} (h : Session s (.ofVerdicts .empty) ks last) :
    Lookups c (ks.map Call.metric) ((ks.map Call.reference).filterMap Reference.exchange)
      (ks.map Call.reference) where
  metrics := List.map_map
  exchanges := rfl
  spared := by
    intro before r after hsplit
    obtain ⟨earlier, rest, rfl, rfl, hrest⟩ := List.map_eq_append_iff.1 hsplit
    obtain ⟨k, later, rfl, rfl, -⟩ := List.map_eq_cons_iff.1 hrest
    rw [h.exchange_eq_none_iff hs hc]
    constructor
    · rintro ⟨j, hj, hm, ha⟩
      exact ⟨j.reference, List.mem_map_of_mem hj, hm, ha⟩
    · rintro ⟨_, hp, hm, ha⟩
      obtain ⟨j, hj, rfl⟩ := List.mem_map.1 hp
      exact ⟨j, hj, hm, ha⟩
  requests := by
    intro r hr request reply hexchange
    obtain ⟨k, hk, rfl⟩ := List.mem_map.1 hr
    obtain ⟨-, hacts, -⟩ | ⟨stop, request', _, -, hrequest, hacts, -⟩ :=
      ((h.happens k hk).legal hs).exchange hc
    · rw [Call.reference, hacts] at hexchange
      nomatch hexchange
    · rw [Call.reference, hacts] at hexchange
      obtain ⟨rfl, -⟩ := Prod.mk.inj (Option.some.inj hexchange)
      exact ⟨stop, hrequest⟩

/-- Every request is counted as a lookup, and nothing else is. -/
theorem lookups_exchanges (hs : s.Records c.account) (hc : c.config.baseUrl.Sound)
    {first last : Checker} {ks : List Call} (h : Session s first ks last) :
    last.lookups =
      first.lookups + ((ks.map Call.reference).filterMap Reference.exchange).length := by
  induction h with
  | nil => rfl
  | cons hk _ ih =>
    rw [ih, (hk.legal hs).lookups_exchange hc, List.map_cons, filterMap_cons_toList,
      List.length_append, Nat.add_assoc]

end Session

theorem Visit.exchanges (hs : s.Records c.account) (hc : c.config.baseUrl.Sound) {v : Visit}
    (h : ∀ k ∈ v.calls, k.Happens s) :
    v.acts.filterMap Act.exchange? =
      (v.calls.map Call.reference).filterMap Reference.exchange := by
  rcases v with ⟨q, message | ks⟩
  · rfl
  · have hcalls : ∀ k ∈ ks, k.Happens s := h
    change (ks.flatMap (Call.actsFor q)).filterMap Act.exchange? =
      (ks.map Call.reference).filterMap Reference.exchange
    clear h
    induction ks with
    | nil => rfl
    | cons k rest ih =>
      obtain ⟨hk, hrest⟩ := List.forall_mem_cons.1 hcalls
      have htold : ((k.event? q).toList.map Act.told).filterMap Act.exchange? = [] := by
        cases k.event? q <;> rfl
      rw [List.flatMap_cons, List.filterMap_append, ih hrest, Call.actsFor, List.filterMap_append,
        (hk.legal hs).filterMap_acts hc, htold, List.append_nil, List.map_cons,
        filterMap_cons_toList]

/-- **The requests of an audit** are those of its references, and as many lookups are counted. -/
theorem Tour.references (hs : s.Records c.account) (hc : c.config.baseUrl.Sound)
    {qs : List RuleQuery} {vs : List Visit} {last : Checker}
    (h : Tour s qs (.ofVerdicts .empty) vs last) :
    let exchanges := (vs.flatMap Visit.acts).filterMap Act.exchange?
    (∃ rs, Lookups c (qs.flatMap RuleQuery.metrics) exchanges rs) ∧
      last.lookups = exchanges.length := by
  intro exchanges
  have hexchanges : exchanges =
      ((vs.flatMap Visit.calls).map Call.reference).filterMap Reference.exchange := by
    have hhappens := h.session.happens
    change (vs.flatMap Visit.acts).filterMap Act.exchange? = _
    rw [List.filterMap_flatMap, List.map_flatMap, List.filterMap_flatMap]
    exact List.flatMap_congr fun v hv =>
      Visit.exchanges hs hc fun k hk => hhappens k (List.mem_flatMap.2 ⟨v, hv, hk⟩)
  rw [hexchanges, ← h.metrics]
  refine ⟨⟨_, h.session.references hs hc⟩, ?_⟩
  exact (h.session.lookups_exchanges hs hc).trans (Nat.zero_add _)

end

end RuleAudit
