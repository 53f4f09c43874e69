import RuleAudit.Proofs.Timestamp
import RuleAudit.Proofs.Json.Recovered
import RuleAudit.Proofs.RunId
import RuleAudit.Program

/-!
# A report loses nothing

A summary is what a report tells, with its number and its times not yet written as texts. It is had
again from the text of the report.

* `Summary.text`: the text of the report on a summary;
* `Finding.ofJson?`, `Diagnostic.ofJson?`, `Summary.ofJson?`: what the members of objects tell;
* `Summary.toJson_distinct`: no member of an object hides another;
* `Summary.text_recovered`: a summary is had again from its text.
-/

namespace RuleAudit

open Json (Value Tree textMember countMember)

/-! ### Reading members -/

namespace Json.Value

/-- The text that a value is. -/
def text? : Value → Option Text
  | .string t => some t
  | _ => none

/-- The number of things that a value is. -/
def count? : Value → Option Nat
  | .number (.int i) => if 0 ≤ i then some i.toNat else none
  | _ => none

/-- What the items of a list tell. -/
def items? {α : Type} (item? : Value → Option α) : Value → Option (List α)
  | .array vs => vs.mapM item?
  | _ => none

/-- What a member tells that must be there. -/
def field? {α : Type} (name : Text) (shown? : Value → Option α) (v : Value) : Option α :=
  v.member? name >>= shown?

/-- What a member tells that may be absent. -/
def fieldOr? {α : Type} (name : Text) (absent : α) (shown? : Value → Option α) (v : Value) :
    Option α :=
  match v.member? name with
  | none => some absent
  | some w => shown? w

section

variable {α : Type} {v w : Value} {name : Text} {shown? : Value → Option α}

theorem field?_sorted (h : v.Distinct) (hw : v.member? name = some w) :
    v.sorted.field? name shown? = shown? w.sorted := by
  rw [field?, member?_sorted h, hw]
  rfl

theorem fieldOr?_sorted (h : v.Distinct) (hw : v.member? name = some w) (absent : α) :
    v.sorted.fieldOr? name absent shown? = shown? w.sorted := by
  rw [fieldOr?, member?_sorted h, hw]
  rfl

theorem fieldOr?_absent (h : v.Distinct) (hnone : v.member? name = none) (absent : α) :
    v.sorted.fieldOr? name absent shown? = some absent := by
  rw [fieldOr?, member?_sorted h, hnone]
  rfl

/-- The items of a list are read one by one. -/
theorem items?_sorted {write : α → Value} {item? : Value → Option α} {xs : List α}
    (h : ∀ x ∈ xs, item? (write x).sorted = some x) :
    (array (xs.map write)).sorted.items? item? = some xs := by
  rw [sorted, sortedItems_eq, items?, List.map_map]
  induction xs with
  | nil => rfl
  | cons x xs ih =>
    obtain ⟨hx, hxs⟩ := List.forall_mem_cons.1 h
    rw [List.map_cons, List.mapM_cons, ih hxs]
    change (item? (write x).sorted >>= _) = _
    rw [hx]
    rfl

end

/-! ### Members without values inside them -/

theorem distinct_textMember (name t : Text) : (textMember name t).2.Distinct := .string t

theorem distinct_countMember (name : Text) (n : Nat) : (countMember name n).2.Distinct := .number _

theorem fits_textMember (depth : Nat) (name t : Text) : (textMember name t).2.Fits depth := .string t

theorem fits_countMember (depth : Nat) (name : Text) {n : Nat} (h : n < 2 ^ 64) :
    (countMember name n).2.Fits depth :=
  .number (by omega) (by omega)

end Json.Value

open Json.Value

/-! ### Findings -/

namespace Finding

theorem toJson_distinct (f : Finding) : f.toJson.Distinct := by
  have hnames : (["group", "rule", "query", "metric"] : List Text).Nodup := by decide
  exact .object hnames (by simp [distinct_textMember])

theorem toJson_fits (depth : Nat) (f : Finding) : f.toJson.Fits (depth + 1) :=
  .object (by simp [fits_textMember])

/-- The finding that an object tells. -/
def ofJson? (v : Value) : Option Finding := do
  return ⟨← v.field? "group" text?, ← v.field? "rule" text?, ← v.field? "query" text?,
    ← v.field? "metric" text?⟩

theorem ofJson?_toJson (f : Finding) : ofJson? f.toJson.sorted = some f := by
  have h := f.toJson_distinct
  rw [ofJson?, field?_sorted h rfl, field?_sorted h rfl, field?_sorted h rfl, field?_sorted h rfl]
  rfl

end Finding

/-! ### Diagnostics -/

namespace Diagnostic

/-- The members of a diagnostic and those of its note have names of their own, and all are texts. -/
theorem toJson_members (d : Diagnostic) : ∃ ms, d.toJson = .object ms ∧ (ms.map (·.1)).Nodup ∧
    ∀ m ∈ ms, ∃ name t, m = textMember name t := by
  have hnames : (["file", "group", "rule", "kind", "query", "code", "message", "metric"] :
      List Text).Nodup := by decide
  have hfile : ((if d.file = [] then [] else [textMember "file" d.file]).map (·.1)).Sublist
      (["file"] : List Text) := by
    split
    · exact List.nil_sublist _
    · exact List.Sublist.refl _
  have hmetric : ((d.note.metric.toList.map (textMember "metric")).map (·.1)).Sublist
      (["metric"] : List Text) := by
    cases d.note.metric
    · exact List.nil_sublist _
    · exact List.Sublist.refl _
  refine ⟨_, rfl, hnames.sublist ?_, ?_⟩
  · rw [List.map_append, List.map_append, ErrorNote.members, List.map_append]
    exact (hfile.append (List.Sublist.refl _)).append ((List.Sublist.refl _).append hmetric)
  · intro m hm
    simp only [ErrorNote.members, List.mem_append, List.mem_cons, List.not_mem_nil, or_false,
      List.mem_map] at hm
    rcases hm with (hm | rfl | rfl | rfl | rfl) | (rfl | rfl) | ⟨metric, -, rfl⟩
    · split at hm
      · cases hm
      · exact ⟨_, _, List.mem_singleton.1 hm⟩
    all_goals exact ⟨_, _, rfl⟩

theorem toJson_distinct (d : Diagnostic) : d.toJson.Distinct := by
  obtain ⟨ms, heq, hnames, hms⟩ := d.toJson_members
  rw [heq]
  refine .object hnames fun m hm => ?_
  obtain ⟨name, t, rfl⟩ := hms m hm
  exact distinct_textMember name t

theorem toJson_fits (depth : Nat) (d : Diagnostic) : d.toJson.Fits (depth + 1) := by
  obtain ⟨ms, heq, -, hms⟩ := d.toJson_members
  rw [heq]
  refine .object fun m hm => ?_
  obtain ⟨name, t, rfl⟩ := hms m hm
  exact fits_textMember depth name t

theorem member?_file (d : Diagnostic) :
    d.toJson.member? "file" = if d.file = [] then none else some (.string d.file) := by
  obtain ⟨_ | ⟨c, file⟩, _, _, _, _, _, _, _ | _⟩ := d <;> rfl

theorem member?_metric (d : Diagnostic) :
    d.toJson.member? "metric" = d.note.metric.map .string := by
  obtain ⟨_ | ⟨c, file⟩, _, _, _, _, _, _, _ | _⟩ := d <;> rfl

theorem member?_of_mem {d : Diagnostic} {name t : Text}
    (h : (name, t) ∈ ([("group", d.group), ("rule", d.rule), ("kind", d.kind.word),
      ("query", d.query), ("code", d.note.code), ("message", d.note.message)] :
        List (Text × Text))) :
    d.toJson.member? name = some (.string t) := by
  obtain ⟨_ | ⟨c, file⟩, _, _, _, _, _, _, _⟩ := d <;>
    simp only [List.mem_cons, Prod.mk.injEq, List.not_mem_nil, or_false] at h <;>
    rcases h with ⟨rfl, rfl⟩ | ⟨rfl, rfl⟩ | ⟨rfl, rfl⟩ | ⟨rfl, rfl⟩ | ⟨rfl, rfl⟩ | ⟨rfl, rfl⟩ <;>
    rfl

/-- The diagnostic that an object tells; there may be neither a file nor a metric. -/
def ofJson? (v : Value) : Option Diagnostic := do
  return {
    file := ← v.fieldOr? "file" [] text?
    group := ← v.field? "group" text?
    rule := ← v.field? "rule" text?
    kind := RuleKind.ofWord (← v.field? "kind" text?)
    query := ← v.field? "query" text?
    note := {
      code := ← v.field? "code" text?
      message := ← v.field? "message" text?
      metric := ← v.fieldOr? "metric" none fun w => w.text?.map some } }

theorem ofJson?_toJson (d : Diagnostic) : ofJson? d.toJson.sorted = some d := by
  have h := d.toJson_distinct
  have hfile : d.toJson.sorted.fieldOr? "file" [] text? = some d.file := by
    by_cases hnil : d.file = []
    · rw [fieldOr?_absent h (by rw [member?_file, if_pos hnil]), hnil]
    · rw [fieldOr?_sorted h (by rw [member?_file, if_neg hnil])]
      rfl
  have hmetric : d.toJson.sorted.fieldOr? "metric" none (fun w => w.text?.map some) =
      some d.note.metric := by
    cases hnote : d.note.metric with
    | none => rw [fieldOr?_absent h (by rw [member?_metric, hnote]; rfl)]
    | some metric =>
      rw [fieldOr?_sorted h (by rw [member?_metric, hnote]; rfl)]
      rfl
  have hfield : ∀ name t, (name, t) ∈ ([("group", d.group), ("rule", d.rule),
      ("kind", d.kind.word), ("query", d.query), ("code", d.note.code),
      ("message", d.note.message)] : List (Text × Text)) →
        d.toJson.sorted.field? name text? = some t := by
    intro name t hmem
    rw [field?_sorted h (member?_of_mem hmem)]
    rfl
  rw [ofJson?, hfile, hmetric, hfield "group" d.group (by simp), hfield "rule" d.rule (by simp),
    hfield "kind" d.kind.word (by simp), hfield "query" d.query (by simp),
    hfield "code" d.note.code (by simp), hfield "message" d.note.message (by simp)]
  simp [RuleKind.ofWord_word]

end Diagnostic

/-! ### Counters and status -/

namespace Counters

/-- The counters hold numbers of 64 bits. -/
def Fit (c : Counters) : Prop :=
  ∀ n ∈ [c.rulesListed, c.rulesValidated, c.metricsChecked, c.backendCalls, c.cacheHits], n < 2 ^ 64

theorem toJson_distinct (c : Counters) : c.toJson.Distinct := by
  have hnames : (["rules_listed", "rules_validated", "metrics_checked", "backend_calls",
      "cache_hits"] : List Text).Nodup := by decide
  exact .object hnames (by simp [distinct_countMember])

theorem toJson_fits (depth : Nat) {c : Counters} (h : c.Fit) : c.toJson.Fits (depth + 1) := by
  simp only [Fit, List.forall_mem_cons] at h
  obtain ⟨hlisted, hvalidated, hchecked, hcalls, hhits, -⟩ := h
  refine .object ?_
  simp only [List.forall_mem_cons]
  exact ⟨fits_countMember _ _ hlisted, fits_countMember _ _ hvalidated,
    fits_countMember _ _ hchecked, fits_countMember _ _ hcalls, fits_countMember _ _ hhits,
    List.forall_mem_nil _⟩

/-- The counters that an object tells. -/
def ofJson? (v : Value) : Option Counters := do
  return ⟨← v.field? "rules_listed" count?, ← v.field? "rules_validated" count?,
    ← v.field? "metrics_checked" count?, ← v.field? "backend_calls" count?,
    ← v.field? "cache_hits" count?⟩

theorem ofJson?_toJson (c : Counters) : ofJson? c.toJson.sorted = some c := by
  have h := c.toJson_distinct
  rw [ofJson?, field?_sorted h rfl, field?_sorted h rfl, field?_sorted h rfl, field?_sorted h rfl,
    field?_sorted h rfl]
  simp [countMember, sorted, count?]

end Counters

/-- The status that a word names. -/
def Status.ofWord? (t : Text) : Option Status :=
  [clean, missingMetrics, incomplete].find? (·.word == t)

theorem Status.ofWord?_word (s : Status) : ofWord? s.word = some s := by
  cases s <;> decide

/-! ### Summaries -/

/-- What a report tells. -/
structure Summary where
  /-- The sixteen bytes of the number of the run. -/
  runId : List UInt8
  startedAt : Instant
  finishedAt : Instant
  status : Status
  counters : Counters
  findings : List Finding
  diagnostics : List Diagnostic
deriving DecidableEq, Repr

namespace Summary

/-- The number has sixteen bytes, the times are instants, and the counters have 64 bits. -/
structure Sound (a : Summary) : Prop where
  runId : a.runId.length = 16
  startedAt : Instant.ofUnix? a.startedAt.seconds a.startedAt.nanos = some a.startedAt
  finishedAt : Instant.ofUnix? a.finishedAt.seconds a.finishedAt.nanos = some a.finishedAt
  counters : a.counters.Fit

/-- The report on a summary as an object. -/
def toJson (a : Summary) : Value :=
  .object [textMember "run_id" (RunId.text a.runId),
    textMember "started_at" a.startedAt.renderExact,
    textMember "finished_at" a.finishedAt.renderExact, textMember "status" a.status.word,
    ("counters", a.counters.toJson), ("findings", .array (a.findings.map Finding.toJson)),
    ("diagnostics", .array (a.diagnostics.map Diagnostic.toJson))]

/-- The text of the report on a summary. -/
def text (a : Summary) : Text := a.toJson.pretty 0 ++ ['\n']

/-- The summary of an audit. -/
def ofResults (runId : List UInt8) (startedAt finishedAt : Instant) (r : Results) : Summary :=
  ⟨runId, startedAt, finishedAt, r.status, r.counters, r.findings, r.diagnostics⟩

/-- What is printed for a report is the text of its summary. -/
theorem reportText_eq (runId : List UInt8) (startedAt finishedAt : Instant) (r : Results) :
    Program.reportText
        ⟨RunId.text runId, startedAt.renderExact, finishedAt.renderExact, r⟩ =
      (ofResults runId startedAt finishedAt r).text := rfl

theorem toJson_distinct (a : Summary) : a.toJson.Distinct := by
  have hnames : (["run_id", "started_at", "finished_at", "status", "counters", "findings",
      "diagnostics"] : List Text).Nodup := by decide
  refine .object hnames ?_
  simp only [List.forall_mem_cons, distinct_textMember, true_and]
  refine ⟨a.counters.toJson_distinct, .array ?_, .array ?_, List.forall_mem_nil _⟩
  · simp [Finding.toJson_distinct]
  · simp [Diagnostic.toJson_distinct]

theorem toJson_fits {a : Summary} (h : a.Sound) : a.toJson.Fits Tree.maxDepth := by
  refine .object ?_
  simp only [List.forall_mem_cons, fits_textMember, true_and]
  refine ⟨Counters.toJson_fits _ h.counters, .array ?_, .array ?_, List.forall_mem_nil _⟩
  · simp [Finding.toJson_fits]
  · simp [Diagnostic.toJson_fits]

/-- The summary that an object tells. -/
def ofJson? (v : Value) : Option Summary := do
  return {
    runId := ← RunId.bytes? (← v.field? "run_id" text?)
    startedAt := ← Instant.read? (← v.field? "started_at" text?)
    finishedAt := ← Instant.read? (← v.field? "finished_at" text?)
    status := ← Status.ofWord? (← v.field? "status" text?)
    counters := ← v.field? "counters" Counters.ofJson?
    findings := ← v.field? "findings" (items? Finding.ofJson?)
    diagnostics := ← v.field? "diagnostics" (items? Diagnostic.ofJson?) }

theorem ofJson?_toJson {a : Summary} (h : a.Sound) : ofJson? a.toJson.sorted = some a := by
  have hd := a.toJson_distinct
  have htext : ∀ name t, a.toJson.member? name = some (.string t) →
      a.toJson.sorted.field? name text? = some t := by
    intro name t hmember
    rw [field?_sorted hd hmember]
    rfl
  have hcounters : a.toJson.sorted.field? "counters" Counters.ofJson? = some a.counters := by
    rw [field?_sorted hd rfl, Counters.ofJson?_toJson]
  have hfindings : a.toJson.sorted.field? "findings" (items? Finding.ofJson?) =
      some a.findings := by
    rw [field?_sorted hd rfl, items?_sorted fun f _ => f.ofJson?_toJson]
  have hdiagnostics : a.toJson.sorted.field? "diagnostics" (items? Diagnostic.ofJson?) =
      some a.diagnostics := by
    rw [field?_sorted hd rfl, items?_sorted fun d _ => d.ofJson?_toJson]
  rw [ofJson?, htext "run_id" _ rfl, htext "started_at" _ rfl, htext "finished_at" _ rfl,
    htext "status" _ rfl, hcounters, hfindings, hdiagnostics]
  simp [RunId.bytes?_text h.runId, Instant.read?_renderExact h.startedAt,
    Instant.read?_renderExact h.finishedAt, Status.ofWord?_word]

/-- **A report loses nothing.** What is printed for a report is one JSON document and a line break,
and the report can be had again from the object that is read from it: number, times, status,
counters, and all findings and diagnostics in their order. No two members of an object have one
name, so none hides another; a diagnostic shows no file and no metric exactly if it has none; and
reports that tell different things have different texts. -/
theorem text_recovered :
    (∀ a : Summary, a.Sound → ∃ document v, a.text = document ++ ['\n'] ∧
      Value.read document = .ok v ∧ Value.read a.text = .ok v ∧ ofJson? v = some a) ∧
    (∀ a : Summary, a.toJson.Distinct) ∧
    (∀ d : Diagnostic,
      d.toJson.member? "file" = (if d.file = [] then none else some (.string d.file)) ∧
      d.toJson.member? "metric" = d.note.metric.map .string) ∧
    (∀ runId startedAt finishedAt r, Program.reportText
        ⟨RunId.text runId, startedAt.renderExact, finishedAt.renderExact, r⟩ =
      (ofResults runId startedAt finishedAt r).text) ∧
    (∀ bytes, RunId.ofBytes bytes = RunId.text (RunId.stamped bytes) ∧
      (RunId.stamped bytes).length = bytes.length) ∧
    ∀ a b : Summary, a.Sound → b.Sound → a.text = b.text → a = b := by
  have hread : ∀ {a : Summary}, a.Sound → Value.read a.text = .ok a.toJson.sorted := fun h =>
    Value.read_pretty (toJson_fits h) (by simp [Json.isSpace])
  refine ⟨fun a h => ⟨a.toJson.pretty 0, a.toJson.sorted, rfl, ?_, hread h, ofJson?_toJson h⟩,
    toJson_distinct, fun d => ⟨d.member?_file, d.member?_metric⟩, reportText_eq,
    fun bytes => ⟨RunId.ofBytes_eq_text bytes, RunId.length_stamped bytes⟩, fun a b ha hb heq => ?_⟩
  · have hdocument := @Value.read_pretty [] _ (toJson_fits h) (by simp)
    rwa [List.append_nil] at hdocument
  · have hsame : (Except.ok a.toJson.sorted : Except Json.Error Value) = .ok b.toJson.sorted := by
      rw [← hread ha, ← hread hb, heq]
    refine Option.some.inj ?_
    rw [← ofJson?_toJson ha, ← ofJson?_toJson hb, Except.ok.inj hsame]

/-- A report with a leap second, a year before the first, and texts that have to be escaped. -/
def sample : Summary where
  runId := RunId.stamped (List.replicate 16 0x1F)
  startedAt := ⟨1483228799, 1500000000⟩
  finishedAt := ⟨-62198755200, 20⟩
  status := .missingMetrics
  counters := ⟨1, 1, 2, 18446744073709551615, 0⟩
  findings := [⟨"g", "\"r\"", "a\\b\n\x01", "\u2028"⟩]
  diagnostics := [⟨[], "g", "r", .alerting, "up", ⟨"BACKEND_ERROR", "\x7b\"code\":1\x7d", none⟩⟩,
    ⟨"f.yml", [], [], .recording, "up", ⟨"HTTP_ERROR", [], some []⟩⟩]

/-- It can be had again, and differs in its text from the report that has no metric for an empty
one. -/
theorem text_recovered_sample :
    let other : Summary := { sample with
      diagnostics := sample.diagnostics.map fun d => { d with note.metric := none } }
    (∃ document v, sample.text = document ++ ['\n'] ∧ Value.read document = .ok v ∧
      ofJson? v = some sample) ∧ sample.text ≠ other.text := by
  intro other
  have hcounters : sample.counters.Fit := by
    simp [Counters.Fit, sample]
  have hsample : sample.Sound := ⟨rfl, by decide +kernel, by decide +kernel, hcounters⟩
  have hother : other.Sound :=
    ⟨hsample.runId, hsample.startedAt, hsample.finishedAt, hsample.counters⟩
  obtain ⟨hread, -, -, -, -, hinjective⟩ := text_recovered
  obtain ⟨document, v, htext, hdocument, -, hv⟩ := hread sample hsample
  refine ⟨⟨document, v, htext, hdocument, hv⟩, fun heq => ?_⟩
  exact absurd (hinjective _ _ hsample hother heq) (by decide)

end Summary

end RuleAudit
