import RuleAudit.Proofs.Deeds
import RuleAudit.Proofs.Run.Lookups
import RuleAudit.Proofs.Source

/-!
What the program sends over the wire in the course of a run: at most one request for the rules, and
then the requests of the audit.

* `Program.listingWatched`: how rules are had in a world that writes down what passes over the wire;
* `Program.Traffic`: all that a run sends, and what it prints about that;
* `Program.execute_traffic`: the traffic of every run.
-/

namespace RuleAudit

/-! ### What is sent and printed among all that is done -/

namespace Deed

/-- The request of a deed that sends one. -/
def exchange? : Deed → Option Exchange
  | sent request reply => some (request, reply)
  | _ => none

/-- The result of a deed that prints one. -/
def result? : Deed → Option Text
  | printed t => some t
  | _ => none

/-- All requests, in order. -/
def exchanges (ds : List Deed) : List Exchange := ds.filterMap exchange?

/-- All printed results, in order. -/
def results (ds : List Deed) : List Text := ds.filterMap result?

@[simp] theorem exchanges_append (ds ds' : List Deed) :
    exchanges (ds ++ ds') = exchanges ds ++ exchanges ds' := List.filterMap_append

@[simp] theorem results_append (ds ds' : List Deed) :
    results (ds ++ ds') = results ds ++ results ds' := List.filterMap_append

end Deed

section

variable {W α : Type} {ds : List Deed}

/-- The worlds are the same. What has been sent since the deeds `ds` is what has been written down,
and nothing has been printed. -/
structure Deed.Abreast (ds : List Deed) (x : W × List Deed) (y : Watched W) : Prop where
  world : x.1 = y.world
  exchanges : exchanges x.2 = exchanges ds ++ y.acts.filterMap Act.exchange?
  results : results x.2 = results ds

theorem Deed.Abreast.start (w : W) (ds : List Deed) : Abreast ds (w, ds) ⟨w, []⟩ :=
  ⟨rfl, (List.append_nil _).symm, rfl⟩

theorem inside_abreast (p : StateM W α) : Alike (Deed.Abreast ds) (inside p) (quietly p) := by
  rintro ⟨w, _⟩ ⟨_, _⟩ ⟨rfl, hexchanges, hresults⟩
  exact ⟨rfl, rfl, hexchanges, hresults⟩

theorem doing_abreast (p : StateM W α) {deed : α → Deed} (hsent : ∀ a, (deed a).exchange? = none)
    (hprinted : ∀ a, (deed a).result? = none) :
    Alike (Deed.Abreast ds) (doing p deed) (quietly p) := by
  rintro ⟨w, done⟩ ⟨_, acts⟩ ⟨rfl, hexchanges, hresults⟩
  refine ⟨rfl, rfl, ?_, ?_⟩
  · have hnone : Deed.exchanges [deed (p w).1] = [] := List.filterMap_cons_none (hsent _)
    change Deed.exchanges (done ++ [deed (p w).1]) = _
    rw [Deed.exchanges_append, hnone, List.append_nil]
    exact hexchanges
  · have hnone : Deed.results [deed (p w).1] = [] := List.filterMap_cons_none (hprinted _)
    change Deed.results (done ++ [deed (p w).1]) = _
    rw [Deed.results_append, hnone, List.append_nil]
    exact hresults

theorem send_abreast (s : System (StateM W)) (r : Request) :
    Alike (Deed.Abreast ds) (s.recorded.send r) (recording (s.send r) (.sent r)) := by
  rintro ⟨w, done⟩ ⟨_, acts⟩ ⟨rfl, hexchanges, hresults⟩
  let reply := (s.send r w).1
  refine ⟨rfl, rfl, ?_, ?_⟩
  · change Deed.exchanges (done ++ [Deed.sent r reply]) =
      Deed.exchanges ds ++ (acts ++ [Act.sent r reply]).filterMap Act.exchange?
    rw [Deed.exchanges_append, hexchanges, List.filterMap_append, ← List.append_assoc]
    rfl
  · change Deed.results (done ++ [Deed.sent r reply]) = _
    rw [Deed.results_append, hresults]
    exact List.append_nil _

theorem recording_told_abreast {p : StateM (W × List Deed) α} {q : StateM W α}
    (h : Alike (Deed.Abreast ds) p (quietly q)) (e : Event) :
    Alike (Deed.Abreast ds) p (recording q fun _ => .told e) := by
  intro x y hxy
  obtain ⟨ha, hworld, hexchanges, hresults⟩ := h x y hxy
  refine ⟨ha, hworld, hexchanges.trans ?_, hresults⟩
  change _ = Deed.exchanges ds ++ (y.acts ++ [Act.told e]).filterMap Act.exchange?
  rw [List.filterMap_append]
  exact congrArg _ (List.append_nil _).symm

end

namespace Program

section

variable {W : Type} {s : System (StateM W)} {a : Arguments} {c : Client} {ds : List Deed}

theorem note_abreast (r : LogRecord) :
    Alike (Deed.Abreast ds) (s.recorded.note r) (quietly (s.note r)) :=
  doing_abreast _ (fun _ => rfl) fun _ => rfl

theorem tell_abreast (e : Event) :
    Alike (Deed.Abreast ds) (tell s.recorded e) (recording (tell s e) fun _ => .told e) := by
  refine recording_told_abreast ?_ e
  unfold tell
  rw [quietly_bind]
  refine .bind (doing_abreast _ (fun _ => rfl) fun _ => rfl) fun lost => ?_
  cases lost with
  | none => exact .pure _
  | some reason => exact note_abreast _

theorem closing_deeds (opened : Text × Instant) (r : Results) (x : W × List Deed) :
    ∃ report : Report, report.results = r ∧
      (closing s.recorded a opened r x).2.2 =
        x.2 ++ if a.json then [.printed (reportText report)] else [] := by
  refine ⟨reportOn opened (s.now x.1).1 r, rfl, ?_⟩
  simp only [closing, writeReport, stateM_bind_apply]
  cases a.json with
  | false => exact (List.append_nil _).symm
  | true =>
    simp only [if_true, stateM_bind_apply]
    have hwrite : ∀ t y, s.recorded.writeResult t y =
        ((s.writeResult t y.1).1, (s.writeResult t y.1).2, y.2 ++ [.printed t]) :=
      fun _ _ => rfl
    rw [hwrite]
    rcases s.writeResult _ _ with ⟨_ | reason, w'⟩ <;> rfl

variable [Url.Idna] [Wording]

theorem ask_abreast {α : Type} (c : Client) (decode : Json.Decoder α) (path : Text)
    (ps : List (Text × Text)) :
    Alike (Deed.Abreast ds) (c.ask ⟨s.recorded.send, s.recorded.note⟩ decode path ps)
      (c.ask (Client.Wire.mk s.send s.note).watched decode path ps) := by
  refine Client.ask_alike (.refl c) ?_ note_abreast decode path ps
  rintro r _ rfl
  exact send_abreast s r

theorem surroundings_abreast (s : System (StateM W)) (c : Client) (ds : List Deed) :
    (surroundings s.recorded c).Akin (Deed.Abreast ds) (watched s c) where
  series selector range := by
    dsimp only [surroundings, watched, Surroundings.over, Client.backend]
    exact ask_abreast c _ _ _
  now := inside_abreast _
  note := note_abreast
  tell := tell_abreast

/-! ### Having the rules -/

/-- What a reply to the request for the rules says, or why there is none. -/
def groupsOf : Except Outage Reply → Except Error (List RuleGroup)
  | .error outage => .error (.http outage)
  | .ok r => Envelope.accept Listing.decode r.code r.text

/-- The queries of the rules that are to be audited, had in a world that writes down what passes
over the wire. -/
def listingWatched (s : System (StateM W)) (a : Arguments) (c : Client) :
    StateM (Watched W) (Except Error (List RuleQuery)) :=
  let wire := (Client.Wire.mk s.send s.note).watched
  (Source.ofPaths a.ruleFiles).queries (c.backend wire) wire.note
    fun path => quietly (s.contents path)

theorem listing_abreast (s : System (StateM W)) (a : Arguments) (c : Client) (ds : List Deed) :
    Alike (Deed.Abreast ds) (listing s.recorded a c) (listingWatched s a c) := by
  refine Source.queries_alike ?_ note_abreast (fun _ => inside_abreast _) _
  dsimp only [surroundings, Client.backend]
  exact ask_abreast c _ _ _

/-- Nothing passes over the wire when files are read. -/
theorem listingWatched_files (h : a.ruleFiles ≠ []) :
    listingWatched s a c = quietly (RuleFile.readAll s.contents a.ruleFiles) := by
  have hsource : Source.ofPaths a.ruleFiles = .files a.ruleFiles := by
    cases hfiles : a.ruleFiles with
    | nil => exact absurd hfiles h
    | cons path rest => rfl
  rw [listingWatched, hsource]
  exact RuleFile.readAll_quietly s.contents a.ruleFiles

/-- Without files, one request is sent, and the rules are those of the reply. -/
theorem listingWatched_server (h : a.ruleFiles = []) (hc : c.config.baseUrl.Sound) (x : Watched W) :
    ∃ first reply w, c.request? Client.rulesPath [] = some first ∧
      listingWatched s a c x =
        (((groupsOf reply).map Listing.flatten).mapError .listRules,
          ⟨w, x.acts ++ [.sent first reply]⟩) := by
  let wire := Client.Wire.mk s.send s.note
  have hlisting : listingWatched s a c =
      Source.ofServer (c.backend wire.watched) wire.watched.note := by
    rw [listingWatched, h]
    rfl
  obtain ⟨first, hfirst⟩ := Client.request?_rules hc
  obtain ⟨reply, w, hask⟩ := Client.ask_sent hfirst wire Listing.decode x
  have hgroups : (c.backend wire.watched).ruleGroups x =
      (groupsOf reply, ⟨w, x.acts ++ [.sent first reply]⟩) := by
    dsimp only [Client.backend]
    rw [hask]
    cases reply <;> rfl
  rw [hlisting, Source.ofServer, stateM_bind_apply, hgroups]
  cases hgs : groupsOf reply with
  | error e =>
    refine ⟨first, reply, w, hfirst, ?_⟩
    rw [hgs]
    rfl
  | ok gs =>
    -- the rules that are passed over are noted, and notes are not sent
    let noted (r : Text × Text) : StateM W Unit := s.note (.passedOver r.1 r.2)
    refine ⟨first, reply, ((Listing.passedOver gs).forM noted w).2, hfirst, ?_⟩
    rw [hgs]
    change (_, ((Listing.passedOver gs).forM (fun r => quietly (noted r)) _).2) = _
    rw [← quietly_forM]
    rfl

/-! ### The audit and what comes after it -/

theorem auditing_abreast (s : System (StateM W)) (a : Arguments) (c : Client) (ds : List Deed) :
    Alike (Deed.Abreast ds) (auditing s.recorded a c)
      (Audit.run (watched s c) (listingWatched s a c) (.ofVerdicts .empty)) :=
  Audit.run_alike (surroundings_abreast s c ds) (listing_abreast s a c ds) _

theorem auditing_of_unlisted {w : W} {y : Watched W} {e : Error}
    (h : listingWatched s a c ⟨w, []⟩ = (.error e, y)) :
    let audited := auditing s.recorded a c (w, ds)
    audited.1.1 = .error e ∧
      Deed.exchanges audited.2.2 = Deed.exchanges ds ++ y.acts.filterMap Act.exchange? := by
  intro audited
  obtain ⟨hsame, habreast⟩ := auditing_abreast s a c ds _ _ (.start w ds)
  rw [Audit.run_unlisted (watched s c) h] at hsame habreast
  exact ⟨congrArg (·.1) hsame, habreast.exchanges⟩

/-- Once the rules are had, what is sent are the requests of the audit. -/
theorem auditing_of_listed (hc : c.config.baseUrl.Sound) {w : W} {y : Watched W}
    {qs : List RuleQuery} (h : listingWatched s a c ⟨w, []⟩ = (.ok qs, y)) :
    let audited := auditing s.recorded a c (w, ds)
    ∃ r more, audited.1.1 = .ok r ∧
      Deed.exchanges audited.2.2 =
        Deed.exchanges ds ++ (y.acts.filterMap Act.exchange? ++ more) ∧
      Deed.results audited.2.2 = Deed.results ds ∧
      (∃ rs, Lookups c (qs.flatMap RuleQuery.metrics) more rs) ∧
      r.counters.backendCalls = more.length := by
  intro audited
  have hs := (surroundings s c).over_records c (Client.Wire.mk s.send s.note)
  obtain ⟨vs, last, w', ht, hrun⟩ := Audit.run_tour hs h (.ofVerdicts .empty)
  change Audit.run (watched s c) _ _ _ = _ at hrun
  obtain ⟨hsame, habreast⟩ := auditing_abreast s a c ds _ _ (.start w ds)
  rw [hrun] at hsame habreast
  obtain ⟨hlookups, hcount⟩ := ht.references hs hc
  refine ⟨_, _, congrArg (·.1) hsame, ?_, habreast.results, hlookups, hcount⟩
  rw [habreast.exchanges, List.filterMap_append]

/-- A run of which the deeds are written down, once there is a client. -/
theorem run_deeds (hc : configure s.environment a = .ok c) (w : W) :
    let audited :=
      auditing s.recorded a c ((opening s c w).2, [.noted (.checking c.config.baseUrl.render)])
    (∀ e, audited.1.1 = .error e → (run s.recorded a (w, [])).2 = audited.2) ∧
      ∀ r, audited.1.1 = .ok r → ∃ report : Report, report.results = r ∧
        (run s.recorded a (w, [])).2.2 =
          audited.2.2 ++ if a.json then [.printed (reportText report)] else [] := by
  intro audited
  let opened := opening s.recorded c (w, [])
  constructor
  · intro e he
    have haudited : (auditing s.recorded a c opened.2).1.1 = .error e := he
    rw [run_configured (s := s.recorded) hc, haudited]
    rfl
  · intro r hr
    have haudited : (auditing s.recorded a c opened.2).1.1 = .ok r := hr
    rw [run_configured (s := s.recorded) hc, haudited]
    exact closing_deeds opened.1 r audited.2

/-- The last message, if the program has failed, is neither sent nor printed. -/
theorem execute_deeds (s : System (StateM W)) (a : Arguments) (x : W × List Deed) :
    Deed.exchanges (execute s.recorded a x).2.2 = Deed.exchanges (run s.recorded a x).2.2 ∧
      Deed.results (execute s.recorded a x).2.2 = Deed.results (run s.recorded a x).2.2 := by
  cases h : (run s.recorded a x).1 with
  | error e =>
    rw [deeds_of_error h, Deed.exchanges_append, Deed.results_append]
    exact ⟨List.append_nil _, List.append_nil _⟩
  | ok status =>
    rw [deeds_of_ok h]
    exact ⟨rfl, rfl⟩

/-! ### Traffic -/

/-- What is sent when queries are audited, and what is printed about that. -/
structure AuditTraffic (a : Arguments) (c : Client) (qs : List RuleQuery)
    (exchanges : List Exchange) (results : List Text) : Prop where
  /-- The metrics of a query stand in the order of their characters, and each stands there once. -/
  sorted : ∀ q ∈ qs, q.metrics.Pairwise (· < ·)
  lookups : ∃ rs, Lookups c (qs.flatMap RuleQuery.metrics) exchanges rs
  /-- If a report is wanted, it is all that is printed, and gives the number of the requests. -/
  counted : a.json = true →
    ∃ r, results = [reportText r] ∧ r.results.counters.backendCalls = exchanges.length

/-- What is sent in the course of a run, and what is printed. -/
structure Traffic (s : System (StateM W)) (a : Arguments) (w : W) (exchanges : List Exchange)
    (results : List Text) : Prop where
  /-- Without a client, nothing is sent. -/
  unconfigured : ∀ e, configure s.environment a = .error e → exchanges = []
  /-- If there are files and one of them cannot be read or is no rule file, nothing is sent. -/
  unread : ∀ c e, configure s.environment a = .ok c → a.ruleFiles ≠ [] →
    (RuleFile.readAll s.contents a.ruleFiles (opening s c w).2).1 = .error e → exchanges = []
  /-- If the files have been read, only the requests of the audit are sent. -/
  read : ∀ c qs, configure s.environment a = .ok c → a.ruleFiles ≠ [] →
    (RuleFile.readAll s.contents a.ruleFiles (opening s c w).2).1 = .ok qs →
      AuditTraffic a c qs exchanges results
  /-- Without files, the rules are requested first and once. If they are not had, nothing else is
  sent, and else the requests of the audit are. -/
  served : ∀ c, configure s.environment a = .ok c → a.ruleFiles = [] →
    ∃ first reply more, exchanges = (first, reply) :: more ∧
      c.request? Client.rulesPath [] = some first ∧
      (∀ e, groupsOf reply = .error e → more = []) ∧
      ∀ gs, groupsOf reply = .ok gs → AuditTraffic a c (Listing.flatten gs) more results

section

variable {w : W} {y : Watched W}

theorem execute_of_unlisted (hc : configure s.environment a = .ok c) {e : Error}
    (h : listingWatched s a c ⟨(opening s c w).2, []⟩ = (.error e, y)) :
    Deed.exchanges (execute s.recorded a (w, [])).2.2 = y.acts.filterMap Act.exchange? := by
  obtain ⟨haudited, hexchanges⟩ := auditing_of_unlisted h
  rw [(execute_deeds s a _).1, (run_deeds hc w).1 e haudited, hexchanges]
  rfl

theorem execute_of_listed (hc : configure s.environment a = .ok c) {qs : List RuleQuery}
    (h : listingWatched s a c ⟨(opening s c w).2, []⟩ = (.ok qs, y)) :
    let done := (execute s.recorded a (w, [])).2.2
    ∃ more, Deed.exchanges done = y.acts.filterMap Act.exchange? ++ more ∧
      AuditTraffic a c qs more (Deed.results done) := by
  intro done
  obtain ⟨r, more, haudited, hexchanges, hresults, hlookups, hcount⟩ :=
    auditing_of_listed (configure_sound hc) h
  obtain ⟨report, rfl, hrun⟩ := (run_deeds hc w).2 r haudited
  -- from the end of the audit on, nothing is sent, and at most the report is printed
  obtain ⟨hsent, hprinted⟩ := execute_deeds s a (w, [])
  rw [hrun, Deed.exchanges_append, hexchanges] at hsent
  rw [hrun, Deed.results_append, hresults] at hprinted
  refine ⟨more, ?_, fun q _ => q.metrics_sorted, hlookups, fun hjson => ⟨report, ?_, hcount⟩⟩
  · refine hsent.trans ?_
    cases a.json <;> exact List.append_nil _
  · rw [if_pos hjson] at hprinted
    exact hprinted

/-- A run that has its rules from the server. -/
theorem execute_served (hc : configure s.environment a = .ok c) (hfiles : a.ruleFiles = [])
    (w : W) :
    let done := (execute s.recorded a (w, [])).2.2
    ∃ first reply more, Deed.exchanges done = (first, reply) :: more ∧
      c.request? Client.rulesPath [] = some first ∧
      (∀ e, groupsOf reply = .error e → more = []) ∧
      ∀ gs, groupsOf reply = .ok gs →
        AuditTraffic a c (Listing.flatten gs) more (Deed.results done) := by
  intro done
  obtain ⟨first, reply, w', hfirst, hlisting⟩ :=
    listingWatched_server hfiles (configure_sound hc) ⟨(opening s c w).2, []⟩
  cases hgs : groupsOf reply with
  | error e =>
    rw [hgs] at hlisting
    refine ⟨first, reply, [], execute_of_unlisted hc hlisting, hfirst, fun _ _ => rfl, ?_⟩
    intro gs h
    nomatch hgs.symm.trans h
  | ok gs =>
    rw [hgs] at hlisting
    obtain ⟨more, hmore, htraffic⟩ := execute_of_listed hc hlisting
    refine ⟨first, reply, more, hmore, hfirst, ?_, ?_⟩
    · intro e h
      nomatch hgs.symm.trans h
    · intro gs' h
      obtain rfl := Except.ok.inj (hgs.symm.trans h)
      exact htraffic

end

/-- **What passes over the wire**: without a client and with files that cannot be read, nothing;
with files, the requests of the audit; and else one request for the rules, with the requests of the
audit behind it if the rules are had. The audit requests the series of the metrics of its rules, in
order and each until it has been answered. Writing all this down changes nothing. -/
theorem execute_traffic (s : System (StateM W)) (a : Arguments) (w : W) :
    let after := execute s.recorded a (w, [])
    after.1 = (execute s a w).1 ∧ after.2.1 = (execute s a w).2 ∧
      Traffic s a w (Deed.exchanges after.2.2) (Deed.results after.2.2) := by
  intro after
  obtain ⟨hcode, hworld⟩ := execute_recorded s a w []
  refine ⟨hcode, hworld, ?_, ?_, ?_, fun c hc hfiles => execute_served hc hfiles w⟩
  · intro e hc
    rw [show after.2.2 = _ from execute_unconfigured hc w []]
    rfl
  · intro c e hc hfiles hread
    have hlisting : listingWatched s a c ⟨(opening s c w).2, []⟩ = _ :=
      (congrFun (listingWatched_files hfiles) _).trans (quietly_eq hread)
    exact execute_of_unlisted hc hlisting
  · intro c qs hc hfiles hread
    have hlisting : listingWatched s a c ⟨(opening s c w).2, []⟩ = _ :=
      (congrFun (listingWatched_files hfiles) _).trans (quietly_eq hread)
    obtain ⟨more, hmore, htraffic⟩ := execute_of_listed hc hlisting
    rw [show Deed.exchanges after.2.2 = more from hmore]
    exact htraffic

end

end Program

end RuleAudit
