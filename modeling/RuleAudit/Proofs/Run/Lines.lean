import RuleAudit.Program
import RuleAudit.Proofs.Exit
import RuleAudit.Proofs.Query.Selection
import RuleAudit.Proofs.Run.Beside
import RuleAudit.Proofs.Text.Cutting
import RuleAudit.Proofs.Text.Numeral

/-!
# The lines of an audit

An audit whose events are written as lines: what is written is the line of each event, in order,
with a break behind it. Whether each event has a line of its own depends on the texts that stand in
the lines as they are; all others are quoted, and a quoted text has no break.

* `Error.bare`: the part of a message that comes from outside and is not quoted;
* `Event.Bares`: the bare text in the line of an event, and where it comes from;
* `Audit.run_lines`: what is written in the course of an audit, and when it is a line for each
  event.
-/

namespace RuleAudit

/-! ### Breaks in texts -/

namespace Text

theorem newline_notMem_encodeChar {mark : Char} (hmark : mark ≠ '\n') (c : Char) :
    '\n' ∉ Quoted.encodeChar mark c := by
  have hcode : '\n' ∉ Quoted.codePoint c := by
    rw [Quoted.codePoint, List.mem_append, List.mem_append]
    rintro ((h | h) | h)
    · exact absurd h (by decide)
    · exact notMem_hex rfl _ h
    · exact absurd h (by decide)
  unfold Quoted.encodeChar
  split_ifs with _ _ _ hnewline _ _ _ _
  · decide
  · decide
  · decide
  · decide
  · decide
  · simpa using hmark.symm
  · exact hcode
  · simpa using Ne.symm hnewline
  · exact hcode

/-- A quoted text has no line break. -/
@[simp] theorem count_newline_quoted (t : Text) : (quoted t).count '\n' = 0 := by
  rw [List.count_eq_zero]
  have hinside : '\n' ∉ Quoted.encode t := by
    intro h
    obtain ⟨c, -, hc⟩ := List.mem_flatMap.1 h
    exact newline_notMem_encodeChar (by simp) c hc
  simp [quoted, hinside]

end Text

/-! ### Messages and lines -/

namespace Error

/-- The text in a message that stands there as it came, from a server, a reader or the system. What
else comes from outside is quoted. -/
def bare : Error → Text
  | config m => m
  | backend m => m
  | listRules source => source.bare
  | metricLookup _ source => source.bare
  | parse _ m => m
  | io m => m
  | json m => m
  | yaml m => m
  | http o => o.message

/-- All breaks in a message are in the bare text. -/
theorem count_newline_message (e : Error) : e.message.count '\n' = e.bare.count '\n' := by
  induction e with
  | config m =>
    have h : List.count '\n' ("invalid configuration: " : Text) = 0 := by decide
    change List.count '\n' ("invalid configuration: " ++ m) = List.count '\n' m
    rw [List.count_append, h, Nat.zero_add]
  | backend m =>
    have h : List.count '\n' ("backend request failed: " : Text) = 0 := by decide
    change List.count '\n' ("backend request failed: " ++ m) = List.count '\n' m
    rw [List.count_append, h, Nat.zero_add]
  | listRules source ih =>
    have h : List.count '\n' ("failed to list rules: " : Text) = 0 := by decide
    change List.count '\n' ("failed to list rules: " ++ source.message) = _
    rw [List.count_append, h, Nat.zero_add]
    exact ih
  | metricLookup metric source ih =>
    have h : List.count '\n' ("failed to get metric " : Text) = 0 := by decide
    have hcolon : List.count '\n' (": " : Text) = 0 := by decide
    change List.count '\n' ("failed to get metric " ++ Text.quoted metric ++ ": "
      ++ source.message) = _
    simp only [List.count_append, Text.count_newline_quoted, h, hcolon, Nat.zero_add]
    exact ih
  | parse query m =>
    have h : List.count '\n' ("failed to parse rule " : Text) = 0 := by decide
    have hcolon : List.count '\n' (": " : Text) = 0 := by decide
    change List.count '\n' ("failed to parse rule " ++ Text.quoted query ++ ": " ++ m) = _
    simp only [List.count_append, Text.count_newline_quoted, h, hcolon, Nat.zero_add]
    rfl
  | io m => rfl
  | json m => rfl
  | yaml m => rfl
  | http o => rfl

end Error

namespace Event

/-- The text in the line of an event that stands there as it came, and where it comes from: a
finding has none; the message of a parser, if a rule is no query; and the message of a lookup that
has failed. -/
inductive Bares (acts : List Act) : Event → Text → Prop
  | finding (f : Finding) : Bares acts (.finding f) []
  | unreadable {q : RuleQuery} {message : Text} (h : Query.parse q.query = .error message) :
    Bares acts (.diagnostic (.of q (.parse q.query message))) message
  | failed {q : RuleQuery} {metric : Text} {range : TimeRange} {cause : Error}
    (h : .asked (Lookup.selector metric) range (.error cause) ∈ acts) :
    Bares acts (.diagnostic (.of q (.metricLookup metric cause))) cause.bare

theorem count_newline_line_finding (f : Finding) : f.line.count '\n' = 0 := by
  change List.count '\n' ("rule " ++ Text.quoted f.query ++ ": metric " ++ Text.quoted f.metric
    ++ " not found!") = 0
  simp

theorem count_newline_line_diagnostic (q : RuleQuery) (e : Error) :
    (Diagnostic.of q e).line.count '\n' = e.bare.count '\n' := by
  have hword : q.kind.word.count '\n' = 0 := by cases q.kind <;> decide
  have hmessage := e.count_newline_message
  change List.count '\n' (e.message ++ " (" ++ q.kind.word ++ " rule " ++ Text.quoted q.rule
    ++ " in group " ++ Text.quoted q.group ++ ")") = _
  simp [hword, hmessage]

/-- All breaks in a line are in the bare text. -/
theorem Bares.count_newline {acts : List Act} {e : Event} {t : Text} (h : e.Bares acts t) :
    e.line.count '\n' = t.count '\n' := by
  cases h with
  | finding f => exact count_newline_line_finding f
  | unreadable h => exact count_newline_line_diagnostic _ _
  | failed h => exact count_newline_line_diagnostic _ _

end Event

/-! ### Lines one after another -/

/-- The lines of events, each with a break behind it. -/
def linesOf (es : List Event) : Text := es.flatMap fun e => e.line ++ ['\n']

theorem linesOf_append (es more : List Event) : linesOf (es ++ more) = linesOf es ++ linesOf more :=
  List.flatMap_append

theorem count_newline_linesOf {acts : List Act} {es : List Event} {bares : List Text}
    (h : List.Forall₂ (Event.Bares acts) es bares) :
    (linesOf es).count '\n' = es.length + (bares.map (List.count '\n')).sum := by
  induction h with
  | nil => rfl
  | @cons e t es bares hbare _ ih =>
    have hline := hbare.count_newline
    rw [linesOf, List.flatMap_cons, ← linesOf, List.count_append, List.count_append, ih, hline]
    simp only [List.count_singleton_self, List.length_cons, List.map_cons, List.sum_cons]
    omega

/-- Lines are found again behind their breaks if and only if none of them has a break inside. -/
theorem split_linesOf {es : List Event} :
    Text.split '\n' (linesOf es) = es.map Event.line ++ [[]] ↔ ∀ e ∈ es, '\n' ∉ e.line := by
  constructor
  · intro h e he
    refine Text.notMem_of_mem_split (t := linesOf es) ?_
    rw [h]
    exact List.mem_append_left _ (List.mem_map_of_mem he)
  · intro h
    induction es with
    | nil => rfl
    | cons e es ih =>
      obtain ⟨he, hes⟩ := List.forall_mem_cons.1 h
      rw [linesOf, List.flatMap_cons, ← linesOf, List.append_assoc, List.singleton_append,
        Text.split_append_cons he, ih hes]
      rfl

/-! ### Where the lines of an audit come from -/

theorem length_findings_add_diagnostics (es : List Event) :
    (es.filterMap Event.finding?).length + (es.filterMap Event.diagnostic?).length = es.length := by
  induction es with
  | nil => rfl
  | cons e es ih =>
    cases e <;> simp only [List.filterMap_cons, Event.finding?, Event.diagnostic?,
      List.length_cons] <;> omega

theorem exists_forall₂ {α β : Type} {R : α → β → Prop} {as : List α} (h : ∀ a ∈ as, ∃ b, R a b) :
    ∃ bs, List.Forall₂ R as bs := by
  induction as with
  | nil => exact ⟨[], .nil⟩
  | cons a as ih =>
    obtain ⟨⟨b, hb⟩, has⟩ := List.forall_mem_cons.1 h
    obtain ⟨bs, hbs⟩ := ih has
    exact ⟨b :: bs, .cons hb hbs⟩

theorem Event.forall_newline_notMem {acts : List Act} {es : List Event} {bares : List Text}
    (h : List.Forall₂ (Bares acts) es bares) :
    (∀ e ∈ es, '\n' ∉ e.line) ↔ ∀ t ∈ bares, '\n' ∉ t := by
  induction h with
  | nil => simp
  | @cons e t es bares hbare _ ih =>
    have hline : '\n' ∉ e.line ↔ '\n' ∉ t := by
      rw [← List.count_eq_zero, ← List.count_eq_zero, hbare.count_newline]
    rw [List.forall_mem_cons, List.forall_mem_cons, hline, ih]

section

variable {W : Type} {s : Surroundings (StateM (Watched W))}

theorem Call.Legal.bares {k : Call} (h : k.Legal asking) {q : RuleQuery} {e : Event}
    (he : k.event? q = some e) : ∃ t, e.Bares k.acts t := by
  cases hr : k.result with
  | error e' =>
    obtain ⟨cause, ⟨range, hacts⟩, rfl, -, -⟩ := h.of_error hr
    rw [event?, hr] at he
    obtain rfl : Event.diagnostic _ = e := Option.some.inj he
    have hmem : .asked (Lookup.selector k.metric) range (.error cause) ∈ k.acts := by
      rw [show k.acts = _ from hacts]
      exact List.mem_singleton_self _
    exact ⟨_, .failed hmem⟩
  | ok found =>
    rw [event?, hr] at he
    cases found with
    | true => cases he
    | false =>
      obtain rfl : Event.finding _ = e := Option.some.inj he
      exact ⟨_, .finding _⟩

theorem Event.Bares.mono {acts more : List Act} {e : Event} {t : Text} (h : e.Bares acts t)
    (hsub : acts ⊆ more) : e.Bares more t := by
  cases h with
  | finding f => exact .finding f
  | unreadable h => exact .unreadable h
  | failed h => exact .failed (hsub h)

/-- Every event of a tour has a bare text that comes from a parser or from a lookup of the tour. -/
theorem Tour.bares (hs : s.Records asking) {qs : List RuleQuery} {c c' : Checker}
    {vs : List Visit} (h : Tour s qs c vs c') :
    ∀ e ∈ (outcomesOf vs).events, ∃ t, e.Bares (vs.flatMap Visit.acts) t := by
  intro e he
  obtain ⟨v, hv, he⟩ := mem_events_outcomesOf.1 he
  obtain ⟨message, hfound, hq⟩ | ⟨ks, _, hfound, -, -⟩ := (h.reads v hv).cases
  · rw [Visit.outcome, hfound] at he
    rw [List.mem_singleton.1 he]
    exact ⟨_, .unreadable hq⟩
  · have hcalls : v.calls = ks := by rw [Visit.calls, hfound]
    obtain ⟨k, hk, hevent⟩ : ∃ k ∈ ks, k.event? v.query = some e := by
      have hv : v = ⟨v.query, .ok ks⟩ := by rw [← hfound]
      rw [hv, Visit.events_outcome] at he
      exact List.mem_filterMap.1 he
    rw [← hcalls] at hk
    obtain ⟨t, ht⟩ := (h.legal hs v hv k hk).bares hevent
    exact ⟨t, ht.mono fun a ha => List.mem_flatMap.2 ⟨v, hv, Visit.calls_acts hk ha⟩⟩

end

/-! ### Writing lines in the course of an audit -/

section

variable {W K : Type} {p : System (StateM K)} {written : K → Text} {start : Text}

/-- The system puts every message behind what it has written, and a note does not go there. -/
structure System.Keeps (p : System (StateM K)) (written : K → Text) : Prop where
  writeMessage : ∀ t k,
    (p.writeMessage t k).1 = none ∧ written (p.writeMessage t k).2 = written k ++ t
  note : ∀ r k, written (p.note r k).2 = written k

/-- Writes a line for each event that is told. -/
def System.lineSink (p : System (StateM K)) : Sink K := ⟨p.note, Program.tell p⟩

theorem Program.tell_written (hp : p.Keeps written) (e : Event) (k : K) :
    written (tell p e k).2 = written k ++ (e.line ++ ['\n']) := by
  obtain ⟨hnone, hwritten⟩ := hp.writeMessage (e.line ++ ['\n']) k
  rw [← hwritten, tell, stateM_bind_apply, hnone]
  rfl

/-- What has been written since the start are the lines of what has been told. -/
def Tallies (written : K → Text) (start : Text) (x : Watched (W × K)) : Prop :=
  written x.world.2 = start ++ linesOf (told x.acts)

/-- A program that keeps a property of states goes alike with itself from a state that has it. -/
theorem Alike.of_keeps {X α : Type} {I : X → Prop} {p : StateM X α} (h : ∀ x, I x → I (p x).2) :
    Alike (fun x y => x = y ∧ I x) p p := by
  rintro x _ ⟨rfl, hx⟩
  exact ⟨rfl, rfl, h x hx⟩

/-- Whatever an audit does, what is written remains the lines of what has been told. -/
theorem Surroundings.lineSink_akin (s : Surroundings (StateM W)) (hp : p.Keeps written) :
    (s.toldTo p.lineSink).watched.Akin (fun x y => x = y ∧ Tallies written start x)
      (s.toldTo p.lineSink).watched where
  series selector range := .of_keeps fun x hx => by
    change written x.world.2 = start ++ linesOf (told (x.acts ++ [.asked _ _ _]))
    rw [told_append, hx]
    exact congrArg (fun es => start ++ linesOf es) (List.append_nil _).symm
  now := .of_keeps fun _ hx => hx
  note r := .of_keeps fun x hx => (hp.note r x.world.2).trans hx
  tell e := .of_keeps fun x hx => by
    change written (Program.tell p e x.world.2).2 = start ++ linesOf (told (x.acts ++ [.told e]))
    have htold : told [.told e] = [e] := rfl
    rw [Program.tell_written hp, hx, told_append, htold, linesOf_append, List.append_assoc]
    exact congrArg (fun t => start ++ (_ ++ t)) (List.append_nil _).symm

end

/-- **What an audit writes**, with a line for each event that it tells, to somebody who loses
nothing: the lines of its findings and diagnostics in the order in which these are told. The breaks
are one behind each line and those of the bare texts, which are messages of a parser or of failed
lookups; and the lines are one for each event if and only if no bare text has a break. -/
theorem Audit.run_lines {W K : Type} (s : Surroundings (StateM W)) {p : System (StateM K)}
    {written : K → Text} (hp : p.Keeps written)
    {source : StateM (W × K) (Except Error (List RuleQuery))}
    (hsource : ∀ x, written (source x).2.2 = written x.2) (c : Checker) (w : W) (k : K) :
    let after := run (s.toldTo p.lineSink).watched (quietly source) c ⟨(w, k), []⟩
    let es := told after.2.acts
    written after.2.world.2 = written k ++ linesOf es ∧
      (∀ r, after.1.1 = .ok r →
        r.findings = es.filterMap Event.finding? ∧ r.diagnostics = es.filterMap Event.diagnostic?) ∧
      ∃ bares, List.Forall₂ (Event.Bares after.2.acts) es bares ∧
        (linesOf es).count '\n' = (es.filterMap Event.finding?).length +
          (es.filterMap Event.diagnostic?).length + (bares.map (List.count '\n')).sum ∧
        (Text.split '\n' (linesOf es) = es.map Event.line ++ [[]] ↔ ∀ t ∈ bares, '\n' ∉ t) := by
  intro after es
  have hs := (s.toldTo p.lineSink).watched_records
  obtain ⟨vs, ht, hacts, hresults⟩ := run_quietly hs source c ⟨(w, k), []⟩
  have hacts : after.2.acts = vs.flatMap Visit.acts := hacts
  have hes : es = (outcomesOf vs).events := (congrArg told hacts).trans (ht.told_acts hs)
  refine ⟨?_, ?_, ?_⟩
  · have hquiet : Alike (fun x y => x = y ∧ Tallies written (written k) x)
        (quietly source) (quietly source) := .of_keeps fun x hx => (hsource x.world).trans hx
    have hstart : Tallies written (written k) (⟨(w, k), []⟩ : Watched (W × K)) :=
      (List.append_nil _).symm
    exact (run_alike (s.lineSink_akin hp) hquiet c _ _ ⟨rfl, hstart⟩).2.2
  · intro r hr
    rw [hresults r hr, hes]
    exact ⟨rfl, rfl⟩
  · have hbares : ∀ e ∈ es, ∃ t, e.Bares after.2.acts t := by
      rw [hes, hacts]
      exact ht.bares hs
    obtain ⟨bares, hbares⟩ := exists_forall₂ hbares
    refine ⟨bares, hbares, ?_, split_linesOf.trans (Event.forall_newline_notMem hbares)⟩
    rw [count_newline_linesOf hbares, length_findings_add_diagnostics]

/-- Surroundings whose server fails with a message of two lines. -/
def garrulous : Surroundings (StateM Unit) where
  backend :=
    { ruleGroups := pure (.ok [])
      series := fun _ _ => pure (.error (.backend "first line\nsecond line")) }
  now := pure .earliest
  note _ := pure ()
  tell _ := pure ()

/-- A system that is nothing but a sheet of paper. -/
def paper : System (StateM Text) where
  environment _ := none
  send _ := pure (.error default)
  contents _ := pure (.error [])
  now := pure .earliest
  newRunId := pure []
  note _ := pure ()
  writeMessage t := fun sheet => (none, sheet ++ t)
  writeResult _ := pure none

theorem paper_keeps : paper.Keeps id := ⟨fun _ _ => ⟨rfl, rfl⟩, fun _ _ => rfl⟩

theorem Audit.run_lines_paper :
    let source : StateM (Unit × Text) (Except Error (List RuleQuery)) := pure (.ok (alerts ["up"]))
    let after := run (garrulous.toldTo paper.lineSink).watched (quietly source) (.ofVerdicts .empty)
      ⟨((), "before"), []⟩
    let es := told after.2.acts
    paper.Keeps id ∧ (∀ x, id (source x).2.2 = id x.2) ∧
      after.2.world.2 = "before" ++ linesOf es ∧
      ∃ bares, List.Forall₂ (Event.Bares after.2.acts) es bares ∧
        (Text.split '\n' (linesOf es) = es.map Event.line ++ [[]] ↔ ∀ t ∈ bares, '\n' ∉ t) := by
  intro source after es
  have hsource : ∀ x, id (source x).2.2 = id x.2 := fun _ => rfl
  obtain ⟨hwritten, -, bares, hbares, -, hsplit⟩ := Audit.run_lines garrulous paper_keeps hsource
    (.ofVerdicts .empty) () "before"
  exact ⟨paper_keeps, hsource, hwritten, bares, hbares, hsplit⟩

/-- **A message of two lines breaks the line of its event**: there is one diagnostic and nothing
else, and two lines are written. -/
theorem Audit.run_lines_broken :
    let after := run (garrulous.toldTo paper.lineSink).watched (quietly (pure (.ok (alerts ["up"]))))
      (.ofVerdicts .empty) ⟨((), []), []⟩
    ∃ r, after.1.1 = .ok r ∧ r.findings.length + r.diagnostics.length = 1 ∧
      after.2.world.2.count '\n' = 2 ∧
      Text.split '\n' after.2.world.2 ≠ (told after.2.acts).map Event.line ++ [[]] := by
  have hparse : Query.parse "up" = .ok (Query.Expr.bare "up") :=
    Query.parse_eq_ok [.name "up", .stop] (.vector (some "up") none) (by rfl) (by rfl) (by rfl)
  have hmetrics : (Query.Expr.bare "up").metrics = ["up"] := by rfl
  intro after
  have hafter : after = _ := run_listed _ (quietly_eq rfl) _
  rw [hafter]
  simp only [alerts, List.map_cons, List.map_nil, auditQueries, auditQuery, hparse, hmetrics,
    stateM_bind_apply]
  refine ⟨_, rfl, by rfl, by rfl, ?_⟩
  intro h
  exact absurd (congrArg List.length h) (by decide +kernel)

end RuleAudit
