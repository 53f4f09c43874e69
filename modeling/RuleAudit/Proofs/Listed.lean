import RuleAudit.Proofs.Run.Beside
import RuleAudit.Proofs.Run.Memo
import RuleAudit.Proofs.Source
import RuleAudit.Proofs.Text.Utf8
import RuleAudit.Proofs.Yaml.View

/-!
# Rule files as listings

A rule file is like a server that lists the same groups: the listing of a file is defined on the
nodes of its document, and neither the queries nor an audit of them can tell the one from the other.

* `Yaml.Document.listing`: the groups and rules that a document stands for, as a server lists them;
* `RuleFile.queries_eq_flatten`: the queries of a file are those of its listing;
* `Source.files_like_server`: audits of files and of their listing find the same.
-/

namespace RuleAudit

open Yaml (Document Node Reader)

/-! ### The listing of a document -/

namespace Yaml.Document

/-- The rule of an entry: it records if it has a name to record under, or else raises an alert if it
has a name for that; an entry without either is a rule of another kind, which `unnamed` names. -/
def ruleAt (d : Document) (unnamed : Node → Text) (n : Node) : Rule :=
  match d.textAt? "record" n, d.textAt? "alert" n with
  | some name, _ => ⟨.recording, name, d.textAt "expr" n⟩
  | none, some name => ⟨.alerting, name, d.textAt "expr" n⟩
  | none, none => ⟨.other, unnamed n, d.textAt "expr" n⟩

/-- The group of an entry of a file. -/
def groupAt (d : Document) (path : Text) (unnamed : Node → Text) (n : Node) : RuleGroup :=
  ⟨d.textAt "name" n, path, (d.itemsAt "rules" n).map (d.ruleAt unnamed)⟩

/-- The groups of a document, in order. -/
def listing (d : Document) (path : Text) (unnamed : Node → Text) : List RuleGroup :=
  (d.itemsAt "groups" (d.root.getD .empty)).map (d.groupAt path unnamed)

end Yaml.Document

/-! ### What the readers take from a node -/

variable {d : Document} {n : Node}

/-- What an entry of a rule does to the rule. -/
inductive RuleEntry.Takes (d : Document) : Text → Node → RuleEntry → RuleEntry → Prop
  | record {v : Node} {e : RuleEntry} : Takes d "record" v e { e with record := d.textOf? v }
  | alert {v : Node} {e : RuleEntry} : Takes d "alert" v e { e with alert := d.textOf? v }
  | expr {v : Node} {e : RuleEntry} :
    Takes d "expr" v e { e with expr := (d.wordOf v).getD [] }

/-- What an entry of a group does to the group. -/
inductive EntryGroup.Takes (d : Document) : Text → Node → EntryGroup → EntryGroup → Prop
  | name {v : Node} {g : EntryGroup} : Takes d "name" v g { g with name := (d.wordOf v).getD [] }
  | rules {v : Node} {g : EntryGroup} {es : List RuleEntry}
    (h : List.Forall₂ (Reader.Gives RuleEntry.reader d) (d.itemsOf v) es) :
    Takes d "rules" v g { g with entries := es }

/-- What an entry of a file does to the contents. -/
inductive RuleFile.Takes (d : Document) : Text → Node → RuleFile → RuleFile → Prop
  | groups {v : Node} {f : RuleFile} {gs : List EntryGroup}
    (h : List.Forall₂ (Reader.Gives EntryGroup.reader d) (d.itemsOf v) gs) :
    Takes d "groups" v f ⟨gs⟩

namespace RuleEntry

theorem reader_takes {e : RuleEntry} (h : Reader.Gives reader d n e) :
    ∃ seen, Filled (· ∈ (["record", "alert", "expr"] : List Text)) (Takes d) []
      ⟨none, none, []⟩ (d.membersOf n) seen e := by
  obtain ⟨seen, hfilled, -⟩ := Reader.record_filled h
  refine ⟨seen, hfilled.mono (by simp) ?_⟩
  rintro name v e e' ⟨field, hf, rfl, left, left', hset⟩
  simp only [List.mem_cons, List.not_mem_nil, or_false] at hf
  rcases hf with rfl | rfl | rfl <;>
    obtain ⟨t, mid, ht, hset⟩ := Reader.bind_eq_some.1 hset <;> cases hset
  · rw [← Reader.optionalText_shows ⟨_, _, ht⟩]
    exact .record
  · rw [← Reader.optionalText_shows ⟨_, _, ht⟩]
    exact .alert
  · rw [Reader.text_eq ⟨_, _, ht⟩]
    exact .expr

theorem governs_record : Governs (Takes d) "record" record fun v t => d.textOf? v = t := by
  rintro name v e e' (_ | _ | _)
  · rfl
  all_goals exact (if_neg (by decide)).mpr rfl

theorem governs_alert : Governs (Takes d) "alert" alert fun v t => d.textOf? v = t := by
  rintro name v e e' (_ | _ | _)
  rotate_left
  · rfl
  all_goals exact (if_neg (by decide)).mpr rfl

theorem governs_expr : Governs (Takes d) "expr" expr fun v t => (d.wordOf v).getD [] = t := by
  rintro name v e e' (_ | _ | _)
  rotate_left 2
  · rfl
  all_goals exact (if_neg (by decide)).mpr rfl

/-- **A rule that was read** says what stands at the names of its node. -/
theorem eq_of_reader {e : RuleEntry} (h : Reader.Gives reader d n e) :
    e = ⟨d.textAt? "record" n, d.textAt? "alert" n, d.textAt "expr" n⟩ := by
  obtain ⟨seen, hfilled⟩ := reader_takes h
  have hrecord := hfilled.part_eq (by simp) governs_record List.not_mem_nil
  have halert := hfilled.part_eq (by simp) governs_alert List.not_mem_nil
  have hexpr := hfilled.part_eq (by simp) governs_expr List.not_mem_nil
  obtain ⟨record, alert, expr⟩ := e
  exact congr (congr (congrArg mk hrecord) halert) hexpr

section

variable {g : EntryGroup} {listed : RuleGroup}

/-- The query of such a rule is that of the rule of the listing, if that carries one. -/
theorem queryOf?_of_reader {e : RuleEntry} (h : Reader.Gives reader d n e)
    (hname : g.name = listed.name) (unnamed : Node → Text) :
    RuleFile.queryOf? listed.file g e =
      if (d.ruleAt unnamed n).kind.carriesQuery then some (listed.queryOf (d.ruleAt unnamed n))
      else none := by
  rw [eq_of_reader h, RuleFile.queryOf?, role?, Document.ruleAt, hname]
  cases d.textAt? "record" n with
  | some name => rfl
  | none => cases d.textAt? "alert" n <;> rfl

theorem filterMap_queryOf? {ns : List Node} {es : List RuleEntry}
    (h : List.Forall₂ (Reader.Gives reader d) ns es) (hname : g.name = listed.name)
    (unnamed : Node → Text) :
    es.filterMap (RuleFile.queryOf? listed.file g) =
      ((ns.map (d.ruleAt unnamed)).filter (·.kind.carriesQuery)).map listed.queryOf := by
  induction h with
  | nil => rfl
  | @cons n e ns es hrule _ ih =>
    have hquery := queryOf?_of_reader hrule hname unnamed
    rw [List.map_cons, List.filter_cons]
    by_cases hcarries : (d.ruleAt unnamed n).kind.carriesQuery = true
    · rw [if_pos hcarries] at hquery
      rw [if_pos hcarries, List.filterMap_cons_some hquery, List.map_cons, ih]
    · rw [if_neg hcarries] at hquery
      rw [if_neg hcarries, List.filterMap_cons_none hquery, ih]

end

end RuleEntry

namespace EntryGroup

theorem reader_takes {g : EntryGroup} (h : Reader.Gives reader d n g) :
    ∃ seen, Filled (· ∈ (["name", "rules"] : List Text)) (Takes d) [] ⟨[], []⟩
      (d.membersOf n) seen g := by
  obtain ⟨seen, hfilled, -⟩ := Reader.record_filled h
  refine ⟨seen, hfilled.mono (by simp) ?_⟩
  rintro name v g g' ⟨field, hf, rfl, left, left', hset⟩
  simp only [List.mem_cons, List.not_mem_nil, or_false] at hf
  rcases hf with rfl | rfl <;>
    obtain ⟨t, mid, ht, hset⟩ := Reader.bind_eq_some.1 hset <;> cases hset
  · rw [Reader.text_eq ⟨_, _, ht⟩]
    exact .name
  · exact .rules (Reader.list_shows ⟨_, _, ht⟩)

theorem governs_name : Governs (Takes d) "name" name fun v t => (d.wordOf v).getD [] = t := by
  rintro name v g g' (_ | _)
  · rfl
  · exact (if_neg (by decide)).mpr rfl

theorem governs_rules : Governs (Takes d) "rules" entries fun v es =>
    List.Forall₂ (Reader.Gives RuleEntry.reader d) (d.itemsOf v) es := by
  rintro name v g g' (_ | h)
  · exact (if_neg (by decide)).mpr rfl
  · exact h

/-- **A group that was read** has the name of its node, and its rules are read from the items. -/
theorem shows_of_reader {g : EntryGroup} (h : Reader.Gives reader d n g) :
    g.name = d.textAt "name" n ∧
      List.Forall₂ (Reader.Gives RuleEntry.reader d) (d.itemsAt "rules" n) g.entries := by
  obtain ⟨seen, hfilled⟩ := reader_takes h
  exact ⟨hfilled.part_eq (by simp) governs_name List.not_mem_nil,
    Reader.itemsAt_given hfilled (by simp) governs_rules rfl⟩

/-- The queries of such a group are those of the group of the listing. -/
theorem queries_of_reader {g : EntryGroup} (h : Reader.Gives reader d n g) (path : Text)
    (unnamed : Node → Text) :
    g.entries.filterMap (RuleFile.queryOf? path g) = (d.groupAt path unnamed n).queries := by
  obtain ⟨hname, hrules⟩ := shows_of_reader h
  let listed := d.groupAt path unnamed n
  have hname : g.name = listed.name := hname
  exact RuleEntry.filterMap_queryOf? hrules hname unnamed

end EntryGroup

/-! ### The queries of a file -/

namespace RuleFile

theorem reader_takes {f : RuleFile} (h : Reader.Gives reader d n f) :
    ∃ seen, Filled (· ∈ (["groups"] : List Text)) (Takes d) [] ⟨[]⟩ (d.membersOf n) seen
      f := by
  obtain ⟨seen, hfilled, -⟩ := Reader.record_filled h
  refine ⟨seen, hfilled.mono (by simp) ?_⟩
  rintro name v f f' ⟨field, hf, rfl, left, left', hset⟩
  obtain rfl := List.mem_singleton.1 hf
  obtain ⟨gs, mid, hgs, hset⟩ := Reader.bind_eq_some.1 hset
  cases hset
  exact .groups (Reader.list_shows ⟨_, _, hgs⟩)

theorem governs_groups : Governs (Takes d) "groups" groups fun v gs =>
    List.Forall₂ (Reader.Gives EntryGroup.reader d) (d.itemsOf v) gs := by
  rintro name v f f' ⟨h⟩
  exact h

/-- **A file that was read** has groups that are read from the items of its node. -/
theorem shows_of_reader {f : RuleFile} (h : Reader.Gives reader d n f) :
    List.Forall₂ (Reader.Gives EntryGroup.reader d) (d.itemsAt "groups" n) f.groups := by
  obtain ⟨seen, hfilled⟩ := reader_takes h
  exact Reader.itemsAt_given hfilled (by simp) governs_groups rfl

theorem flatMap_queries {ns : List Node} {gs : List EntryGroup}
    (h : List.Forall₂ (Reader.Gives EntryGroup.reader d) ns gs) (path : Text)
    (unnamed : Node → Text) :
    gs.flatMap (fun g => g.entries.filterMap (queryOf? path g)) =
      (ns.map (d.groupAt path unnamed)).flatMap RuleGroup.queries := by
  induction h with
  | nil => rfl
  | cons hgroup _ ih =>
    rw [List.flatMap_cons, List.map_cons, List.flatMap_cons,
      EntryGroup.queries_of_reader hgroup path unnamed, ih]

/-- **The queries of a file are those of its listing**, whatever rules without a name are called
there. -/
theorem queries_eq_flatten {f : RuleFile} (h : reader.run d = some f) (path : Text)
    (unnamed : Node → Text) : f.queries path = Listing.flatten (d.listing path unnamed) := by
  obtain ⟨⟨f', left⟩, hread, rfl⟩ := Option.map_eq_some_iff.1 h
  exact flatMap_queries (shows_of_reader ⟨_, _, hread⟩) path unnamed

theorem readQueries_eq_ok [Wording] {path t : Text} {qs : List RuleQuery}
    (unnamed : Node → Text) :
    readQueries path t = .ok qs ↔
      ∃ d, Document.read? t = some d ∧ (reader.run d).isSome = true ∧
        qs = Listing.flatten (d.listing path unnamed) := by
  rw [readQueries, read]
  cases hread : Document.read? t with
  | none =>
    constructor
    · intro h
      cases h
    · rintro ⟨d, hd, -⟩
      cases hd
  | some d =>
    have hbind : (some d >>= reader.run) = reader.run d := rfl
    rw [hbind]
    cases hrun : reader.run d with
    | none =>
      constructor
      · intro h
        cases h
      · rintro ⟨d', hd, hsome, -⟩
        cases hd
        rw [hrun] at hsome
        cases hsome
    | some f =>
      constructor
      · intro h
        cases h
        exact ⟨d, rfl, by rw [hrun]; rfl, queries_eq_flatten hrun path unnamed⟩
      · rintro ⟨d', hd, -, rfl⟩
        cases hd
        rw [← queries_eq_flatten hrun path unnamed]
        rfl

end RuleFile

/-! ### Audits of files and of their listing -/

section Audits

variable {W K : Type} {contents : Text → StateM K (Except Text (List UInt8))}
  {files : List (Text × Document)}

/-- The file at a path holds a rule file with that document, whenever it is read. -/
def RuleFile.Holds (contents : Text → StateM K (Except Text (List UInt8))) (path : Text)
    (d : Document) : Prop :=
  ∀ k, ∃ bytes t, (contents path k).1 = .ok bytes ∧ Text.Utf8.decode? bytes = some t ∧
    Document.read? t = some d ∧ (reader.run d).isSome = true

/-- The groups of several files, one file after the other. -/
def RuleFile.listing (files : List (Text × Document)) (unnamed : Node → Text) : List RuleGroup :=
  files.flatMap fun f => f.2.listing f.1 unnamed

theorem RuleFile.flatten_listing_cons (f : Text × Document) (rest : List (Text × Document))
    (unnamed : Node → Text) :
    Listing.flatten (listing (f :: rest) unnamed) =
      Listing.flatten (f.2.listing f.1 unnamed) ++ Listing.flatten (listing rest unnamed) := by
  rw [listing, List.flatMap_cons, Listing.flatten, List.flatMap_append]
  rfl

theorem RuleFile.queriesIn_holds [Wording] {path : Text} (h : Holds contents path d)
    (unnamed : Node → Text) (k : K) :
    queriesIn path (contents path k).1 = .ok (Listing.flatten (d.listing path unnamed)) := by
  obtain ⟨bytes, t, hbytes, ht, hd, hrun⟩ := h k
  rw [queriesIn, hbytes, decode, ht]
  exact (readQueries_eq_ok unnamed).2 ⟨d, hd, hrun, rfl⟩

/-- Files that are read beside a world give the queries of their listing. -/
theorem RuleFile.readAll_holds [Wording] (h : ∀ f ∈ files, Holds contents f.1 f.2)
    (unnamed : Node → Text) (w : W) (k : K) :
    let r := readAll (fun path => beside (contents path)) (files.map (·.1)) (w, k)
    r.1 = .ok (Listing.flatten (listing files unnamed)) ∧ r.2.1 = w := by
  intro r
  induction files generalizing k with
  | nil => exact ⟨rfl, rfl⟩
  | cons f rest ih =>
    obtain ⟨hf, hrest⟩ := List.forall_mem_cons.1 h
    have hr : r = _ := readAll_cons_ok (queriesIn_holds hf unnamed k)
    obtain ⟨hqs, hw⟩ := ih hrest (contents f.1 k).2
    have hstate : (beside (contents f.1) (w, k)).2 = (w, (contents f.1 k).2) := rfl
    rw [hr, hstate]
    refine ⟨?_, hw⟩
    change Except.map _ _ = _
    rw [hqs, flatten_listing_cons]
    rfl

/-- Rules that are noted beside a world make no difference to it. -/
theorem forM_beside (p : β → StateM K Unit) (bs : List β) (x : W × K) :
    (bs.forM (fun b => (beside (p b) : StateM (W × K) Unit)) x).2.1 = x.1 := by
  induction bs generalizing x with
  | nil => rfl
  | cons b rest ih => exact ih (x.1, (p b x.2).2)

/-- A server that lists its groups beside a world gives their queries. -/
theorem Source.ofServer_beside (note : LogRecord → StateM K Unit) {b : Backend (StateM (W × K))}
    {listed : StateM K (Except Error (List RuleGroup))} {gs : List RuleGroup} {k : K}
    (hb : b.ruleGroups = beside listed) (hgs : (listed k).1 = .ok gs) (w : W) :
    let r := ofServer b (fun record => beside (note record)) (w, k)
    r.1 = .ok (Listing.flatten gs) ∧ r.2.1 = w := by
  intro r
  have hlisted : beside listed (w, k) = (.ok gs, w, (listed k).2) := by
    rw [← hgs]
    rfl
  have hr : r = (.ok (Listing.flatten gs), (((Listing.passedOver gs).forM fun p =>
      (beside (note (.passedOver p.1 p.2)) : StateM (W × K) Unit)) (w, (listed k).2)).2) := by
    change ofServer b _ (w, k) = _
    simp only [ofServer, stateM_bind_apply, hb, hlisted]
    rfl
  rw [hr]
  exact ⟨rfl, forM_beside (fun p : Text × Text => note (.passedOver p.1 p.2)) _ _⟩

end Audits

/-- **Rule files and a listing of their groups agree.** The queries of a text that is a rule file
are those of the listing of its document. So audits of rule files and of a server that lists their
groups, from the same state, give the same results, leave the same checker and the same world, and
ask and tell the same on the way. What is read, listed and logged happens beside the world. -/
theorem Source.files_like_server [Wording] {W K : Type} (s : Surroundings (StateM W))
    (note : LogRecord → StateM K Unit) {contents : Text → StateM K (Except Text (List UInt8))}
    {files : List (Text × Document)} {listed : StateM K (Except Error (List RuleGroup))}
    {unnamed : Node → Text} (hfiles : ∀ f ∈ files, RuleFile.Holds contents f.1 f.2)
    (hlisted : ∀ k, (listed k).1 = .ok (RuleFile.listing files unnamed)) (c : Checker)
    (x : Watched (W × K)) :
    (∀ path t d, Document.read? t = some d → (RuleFile.reader.run d).isSome = true →
      RuleFile.readQueries path t = .ok (Listing.flatten (d.listing path unnamed))) ∧
    let near := s.loggedTo note
    let read := (Source.files (files.map (·.1))).queries near.backend near.note
      fun path => beside (contents path)
    let asked := Source.server.queries { near.backend with ruleGroups := beside listed } near.note
      fun path => beside (contents path)
    let ofFiles := Audit.run near.watched (quietly read) c x
    let ofServer := Audit.run near.watched (quietly asked) c x
    (∃ results, ofFiles.1.1 = .ok results ∧ ofServer.1.1 = .ok results) ∧
      ofFiles.1.2 = ofServer.1.2 ∧ ofFiles.2.acts = ofServer.2.acts ∧
      ofFiles.2.world.1 = ofServer.2.world.1 := by
  refine ⟨?_, ?_⟩
  · intro path t d hd hrun
    exact (RuleFile.readQueries_eq_ok unnamed).2 ⟨d, hd, hrun, rfl⟩
  intro near read asked ofFiles ofServer
  have hread (w : W) (k : K) := RuleFile.readAll_holds hfiles unnamed w k
  have hasked (w : W) (k : K) := Source.ofServer_beside note
    (b := { near.backend with ruleGroups := beside listed }) rfl (hlisted k) w
  -- both give the same queries and leave the world alone, whatever they do beside it
  have halike : Alike SameInside read asked := by
    rintro ⟨w, k⟩ ⟨_, k'⟩ rfl
    obtain ⟨hqs, hw⟩ := hread w k
    obtain ⟨hqs', hw'⟩ := hasked w k'
    exact ⟨hqs.trans hqs'.symm, hw.trans hw'.symm⟩
  obtain ⟨hsame, hlevel⟩ := Audit.run_alike (s.loggedTo_akin note note).watched halike.quietly c x x
    ⟨rfl, rfl⟩
  have hrun : ofFiles = _ := Audit.run_listed near.watched
    (quietly_eq (hread x.world.1 x.world.2).1) c
  have hok : ∃ results, ofFiles.1.1 = .ok results := ⟨_, by rw [hrun]⟩
  obtain ⟨results, hresults⟩ := hok
  have hresults' : ofServer.1.1 = .ok results := hresults ▸ (congrArg (·.1) hsame).symm
  exact ⟨⟨results, hresults, hresults'⟩, congrArg (·.2) hsame, hlevel.acts, hlevel.world⟩

/-- A rule file whose rules have both names, one and none, and whose second group has no rules. -/
def mixedFile : Text :=
  "groups:\n- name: g\n  rules:\n  - record: r\n    alert: A\n    expr: up\n" ++
    "  - record: ~\n    alert: B\n  - expr: up\n- name: h\n"

open Plain in
theorem files_like_server_mixed :
    let path : Text := "mixed.yml"
    let contents : Text → StateM Nat (Except Text (List UInt8)) := fun _ k =>
      (.ok (Text.Utf8.encode mixedFile), k + 1)
    let near := fickle.loggedTo fun _ => (pure () : StateM Nat Unit)
    let x : Watched (Nat × Nat) := ⟨(1, 0), []⟩
    let c : Checker := .ofVerdicts .empty
    ∃ d, Document.read? mixedFile = some d ∧ RuleFile.Holds contents path d ∧
      let asked := Source.server.queries
        { near.backend with ruleGroups := beside fun k => (.ok (d.listing path fun _ => []), k) }
        near.note fun path => beside (contents path)
      let ofFiles := Audit.run near.watched
        (quietly ((Source.files [path]).queries near.backend near.note fun path =>
          beside (contents path))) c x
      RuleFile.readQueries path mixedFile =
          .ok [⟨path, ['g'], ['r'], .recording, "up"⟩, ⟨path, ['g'], ['B'], .alerting, []⟩] ∧
        RuleFile.readQueries path mixedFile =
          .ok (Listing.flatten (d.listing path fun _ => [])) ∧
        ofFiles.2.acts = (Audit.run near.watched (quietly asked) c x).2.acts := by
  dsimp only
  have hqueries : RuleFile.readQueries "mixed.yml" mixedFile =
      .ok [⟨"mixed.yml", ['g'], ['r'], .recording, "up"⟩,
        ⟨"mixed.yml", ['g'], ['B'], .alerting, []⟩] := by
    have hread : (RuleFile.readQueries "mixed.yml" mixedFile).toOption =
        some [⟨"mixed.yml", ['g'], ['r'], .recording, "up"⟩,
          ⟨"mixed.yml", ['g'], ['B'], .alerting, []⟩] := by decide +kernel
    generalize RuleFile.readQueries "mixed.yml" mixedFile = r at hread
    cases r with
    | error e => cases hread
    | ok qs => exact congrArg Except.ok (Option.some.inj hread)
  obtain ⟨d, hd, hrun, -⟩ := (RuleFile.readQueries_eq_ok fun _ => []).1 hqueries
  have hholds : RuleFile.Holds (fun _ k => (.ok (Text.Utf8.encode mixedFile), k + 1) :
      Text → StateM Nat (Except Text (List UInt8))) "mixed.yml" d := fun k =>
    ⟨_, mixedFile, rfl, Text.Utf8.decode?_encode _, hd, hrun⟩
  have hlisted : ∀ k : Nat, (.ok (d.listing "mixed.yml" fun _ => []) : Except Error _) =
      .ok (RuleFile.listing [("mixed.yml", d)] fun _ => []) := fun _ =>
    congrArg Except.ok (List.append_nil _).symm
  obtain ⟨hflatten, -, -, hacts, -⟩ := @Source.files_like_server _ Nat Nat fickle
    (fun _ => pure ()) _ [("mixed.yml", d)] (fun k => (.ok (d.listing "mixed.yml" fun _ => []), k))
    (fun _ => []) (List.forall_mem_singleton.2 hholds) hlisted (.ofVerdicts .empty) ⟨(1, 0), []⟩
  exact ⟨d, hd, hholds, hqueries, hflatten _ _ _ hd hrun, hacts⟩

end RuleAudit
