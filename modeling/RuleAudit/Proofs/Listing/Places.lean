import Mathlib.Data.List.Forall2
import Mathlib.Logic.Relation
import RuleAudit.Proofs.Exit
import RuleAudit.Proofs.Listed
import RuleAudit.Proofs.Run.Chronicle

/-!
Which rules of a listing become queries, and where they stand among them.

* `Listing.OneEach`: some rules of a listing, each at its place, and nothing else;
* `Listing.Reshaped`: what can be done to a listing without a change to its queries;
* `Source.flatten_in_places`: the queries of a listing, the notes about its other rules, and what
  follows for every source and every audit.
-/

namespace RuleAudit

namespace Listing

/-! ### Places -/

/-- The rule of a listing at a place, and its group. A place is the number of the group among the
groups and the number of the rule in the group. -/
def RuleAt (gs : List RuleGroup) (place : Nat × Nat) (g : RuleGroup) (r : Rule) : Prop :=
  gs[place.1]? = some g ∧ g.rules[place.2]? = some r

/-- The items are those of the rules that satisfy `p`, one for each, in the order of their places:
by groups, and then by rules. -/
structure OneEach {α : Type} (gs : List RuleGroup) (p : Rule → Prop) (item : RuleGroup → Rule → α)
    (places : List (Nat × Nat)) (items : List α) : Prop where
  ordered : places.Pairwise (Prod.Lex (· < ·) (· < ·))
  mem_iff : ∀ place, place ∈ places ↔ ∃ g r, RuleAt gs place g r ∧ p r
  items : List.Forall₂ (fun place a => ∃ g r, RuleAt gs place g r ∧ a = item g r) places items

section

variable {α : Type} {p : Rule → Bool} {gs : List RuleGroup}

/-- The rules of a group that satisfy `p`, each with its number. -/
def chosenIn (p : Rule → Bool) (g : RuleGroup) : List (Rule × Nat) :=
  g.rules.zipIdx.filter fun x => p x.1

/-- The rules of a listing that satisfy `p`, each with its place and its group. -/
def chosen (p : Rule → Bool) (gs : List RuleGroup) : List ((Nat × Nat) × RuleGroup × Rule) :=
  gs.zipIdx.flatMap fun x => (chosenIn p x.1).map fun y => ((x.2, y.2), x.1, y.1)

theorem mem_chosen {place : Nat × Nat} {g : RuleGroup} {r : Rule} :
    (place, g, r) ∈ chosen p gs ↔ RuleAt gs place g r ∧ p r = true := by
  obtain ⟨i, j⟩ := place
  simp only [chosen, chosenIn, List.mem_flatMap, List.mem_map, List.mem_filter,
    List.mem_zipIdx_iff_getElem?, RuleAt]
  constructor
  · rintro ⟨⟨g', i'⟩, hg, ⟨r', j'⟩, ⟨hr, hp⟩, heq⟩
    cases heq
    exact ⟨⟨hg, hr⟩, hp⟩
  · rintro ⟨⟨hg, hr⟩, hp⟩
    exact ⟨(g, i), hg, (r, j), ⟨hr, hp⟩, rfl⟩

theorem chosen_pairwise (p : Rule → Bool) (gs : List RuleGroup) :
    (chosen p gs).Pairwise fun a b => Prod.Lex (· < ·) (· < ·) a.1 b.1 := by
  rw [chosen, List.pairwise_flatMap]
  constructor
  · intro x _
    rw [List.pairwise_map]
    refine ((zipIdx_pairwise_lt x.1.rules).filter _).imp fun {y y'} hlt => ?_
    exact Prod.Lex.right x.2 hlt
  · refine (zipIdx_pairwise_lt gs).imp fun {x x'} hlt a ha b hb => ?_
    obtain ⟨y, -, rfl⟩ := List.mem_map.1 ha
    obtain ⟨y', -, rfl⟩ := List.mem_map.1 hb
    exact Prod.Lex.left _ _ hlt

/-- The chosen rules without their places. -/
theorem map_chosen (item : RuleGroup → Rule → α) (p : Rule → Bool) (gs : List RuleGroup) :
    (chosen p gs).map (fun x => item x.2.1 x.2.2) =
      gs.flatMap fun g => (g.rules.filter p).map (item g) := by
  have hgroup (g : RuleGroup) : (chosenIn p g).map Prod.fst = g.rules.filter p := by
    rw [chosenIn, ← List.zipIdx_map_fst 0 g.rules, List.filter_map, List.zipIdx_map_fst]
    rfl
  calc (chosen p gs).map (fun x => item x.2.1 x.2.2)
      = gs.zipIdx.flatMap fun x => ((chosenIn p x.1).map Prod.fst).map (item x.1) := by
        simp only [chosen, List.map_flatMap, List.map_map]
        rfl
    _ = (gs.zipIdx.map Prod.fst).flatMap fun g => (g.rules.filter p).map (item g) := by
        simp only [List.flatMap_map, hgroup]
    _ = gs.flatMap fun g => (g.rules.filter p).map (item g) := by
        rw [List.zipIdx_map_fst]

/-- Going through the groups and through the rules of each finds every rule once, in order. -/
theorem oneEach_flatMap {q : Rule → Prop} (hq : ∀ r, p r = true ↔ q r) (item : RuleGroup → Rule → α)
    (gs : List RuleGroup) :
    ∃ places, OneEach gs q item places (gs.flatMap fun g => (g.rules.filter p).map (item g)) := by
  refine ⟨(chosen p gs).map Prod.fst, ?_, fun place => ?_, ?_⟩
  · rw [List.pairwise_map]
    exact chosen_pairwise p gs
  · simp only [List.mem_map, Prod.exists, exists_and_right, exists_eq_right, mem_chosen, hq]
  · rw [← map_chosen, List.forall₂_map_left_iff, List.forall₂_map_right_iff, List.forall₂_same]
    rintro ⟨place, g, r⟩ hmem
    exact ⟨g, r, (mem_chosen.1 hmem).1, rfl⟩

end

/-! ### Listings with the same queries -/

theorem carriesQuery_iff (k : RuleKind) : k.carriesQuery = true ↔ k ≠ .other := by
  cases k <;> decide

theorem flatten_append (gs more : List RuleGroup) :
    flatten (gs ++ more) = flatten gs ++ flatten more := List.flatMap_append

theorem flatten_around (before after : List RuleGroup) (g : RuleGroup) :
    flatten (before ++ g :: after) = flatten before ++ (g.queries ++ flatten after) := by
  rw [flatten_append]
  rfl

/-- A change to a listing: a group is cut in two, which keep its name and its file; a group without
rules is left out; or a rule of another kind is left out. -/
inductive Reshaped : List RuleGroup → List RuleGroup → Prop
  | cut (before after : List RuleGroup) (name file : Text) (rs rs' : List Rule) :
    Reshaped (before ++ ⟨name, file, rs ++ rs'⟩ :: after)
      (before ++ ⟨name, file, rs⟩ :: ⟨name, file, rs'⟩ :: after)
  | emptied (before after : List RuleGroup) (name file : Text) :
    Reshaped (before ++ ⟨name, file, []⟩ :: after) (before ++ after)
  | spared (before after : List RuleGroup) (name file : Text) (rs rs' : List Rule)
    (rule query : Text) :
    Reshaped (before ++ ⟨name, file, rs ++ ⟨.other, rule, query⟩ :: rs'⟩ :: after)
      (before ++ ⟨name, file, rs ++ rs'⟩ :: after)

theorem Reshaped.flatten_eq {gs gs' : List RuleGroup} (h : Reshaped gs gs') :
    flatten gs' = flatten gs := by
  cases h with
  | cut before after name file rs rs' =>
    have hqueries : (RuleGroup.mk name file (rs ++ rs')).queries =
        (RuleGroup.mk name file rs).queries ++ (RuleGroup.mk name file rs').queries := by
      simp only [RuleGroup.queries, List.filter_append, List.map_append]
      rfl
    rw [flatten_around, flatten_around, hqueries, List.append_assoc]
    rfl
  | emptied before after name file =>
    rw [flatten_around, flatten_append]
    rfl
  | spared before after name file rs rs' rule query =>
    have hqueries : (RuleGroup.mk name file (rs ++ ⟨.other, rule, query⟩ :: rs')).queries =
        (RuleGroup.mk name file (rs ++ rs')).queries := by
      simp only [RuleGroup.queries, List.filter_append]
      rfl
    rw [flatten_around, flatten_around, hqueries]

/-- Any number of such changes leaves the queries as they are. -/
theorem flatten_reshaped {gs gs' : List RuleGroup} (h : Relation.ReflTransGen Reshaped gs gs') :
    flatten gs' = flatten gs := by
  induction h with
  | refl => rfl
  | tail _ hstep ih => rw [hstep.flatten_eq, ih]

theorem kind_of_mem_flatten {gs : List RuleGroup} {q : RuleQuery} (h : q ∈ flatten gs) :
    q.kind ≠ .other := by
  obtain ⟨g, -, hq⟩ := List.mem_flatMap.1 h
  obtain ⟨r, hr, rfl⟩ := List.mem_map.1 hq
  exact (carriesQuery_iff r.kind).1 (List.mem_filter.1 hr).2

end Listing

/-! ### Sources -/

section

variable {W : Type}

/-- The queries of a file never have another kind: they are those of a listing. -/
theorem RuleFile.kind_of_queriesIn [Wording] {path : Text} {bytes : Except Text (List UInt8)}
    {qs : List RuleQuery} (h : queriesIn path bytes = .ok qs) : ∀ q ∈ qs, q.kind ≠ .other := by
  obtain ⟨t, -, ht⟩ := except_bind_eq_ok.1 h
  obtain ⟨d, -, -, rfl⟩ := (readQueries_eq_ok fun _ => []).1 ht
  exact fun q => Listing.kind_of_mem_flatten

theorem RuleFile.kind_of_readAll [Wording] {contents : Text → StateM W (Except Text (List UInt8))}
    {paths : List Text} {w : W} {qs : List RuleQuery} (h : (readAll contents paths w).1 = .ok qs) :
    ∀ q ∈ qs, q.kind ≠ .other := by
  induction paths generalizing w qs with
  | nil =>
    cases h
    exact fun _ hq => nomatch hq
  | cons path rest ih =>
    cases hpath : queriesIn path (contents path w).1 with
    | error e =>
      rw [readAll_cons_error hpath] at h
      cases h
    | ok first =>
      rw [readAll_cons_ok hpath] at h
      cases hrest : (readAll contents rest (contents path w).2).1 with
      | error e =>
        rw [hrest] at h
        cases h
      | ok more =>
        rw [hrest] at h
        cases h
        intro q hq
        rcases List.mem_append.1 hq with hq | hq
        · exact kind_of_queriesIn hpath q hq
        · exact ih hrest q hq

variable {b : Backend (StateM W)} {note : LogRecord → StateM W Unit} {w : W}

/-- What a server lists is noted, but for the rules with a query, and these become queries. -/
theorem Source.ofServer_listed {gs : List RuleGroup} (h : (b.ruleGroups w).1 = .ok gs) :
    ofServer b note w = (.ok (Listing.flatten gs),
      (((Listing.passedOver gs).map fun x => LogRecord.passedOver x.1 x.2).forM note
        (b.ruleGroups w).2).2) := by
  have hnotes : ((Listing.passedOver gs).map fun x => LogRecord.passedOver x.1 x.2).forM note =
      (Listing.passedOver gs).forM fun x => note (.passedOver x.1 x.2) := List.forM_map
  simp only [ofServer, stateM_bind_apply]
  rw [h, hnotes]
  rfl

/-- No query of a source has another kind. -/
theorem Source.kind_of_queries [Wording] {contents : Text → StateM W (Except Text (List UInt8))}
    {source : Source} {qs : List RuleQuery} (h : (source.queries b note contents w).1 = .ok qs) :
    ∀ q ∈ qs, q.kind ≠ .other := by
  cases source with
  | files paths => exact RuleFile.kind_of_readAll h
  | server =>
    cases hlisted : (b.ruleGroups w).1 with
    | error e =>
      have hfails : (ofServer b note w).1 = .error (.listRules e) :=
        ofServer_eq_error.2 ⟨e, hlisted, rfl⟩
      cases hfails.symm.trans h
    | ok gs =>
      have hqs : (ofServer b note w).1 = .ok (Listing.flatten gs) := by rw [ofServer_listed hlisted]
      cases hqs.symm.trans h
      exact fun q => Listing.kind_of_mem_flatten

/-! ### Audits -/

/-- An audit goes through the queries that it is given. -/
theorem Audit.map_fst_auditQueries (s : Surroundings (StateM W)) (qs : List RuleQuery) (c : Checker)
    (w : W) : (auditQueries s qs c w).1.1.map Prod.fst = qs := by
  induction qs generalizing c w with
  | nil => rfl
  | cons q rest ih =>
    simp only [auditQueries, stateM_bind_apply]
    exact congrArg (q :: ·) (ih _ _)

theorem Outcomes.query_of_diagnostic {os : Outcomes} {lookups hits : Nat} {d : Diagnostic}
    (h : d ∈ (os.results lookups hits).diagnostics) : ∃ q ∈ os.map Prod.fst, d.kind = q.kind := by
  obtain ⟨⟨q, o⟩, hmem, hd⟩ := List.mem_flatMap.1 (mem_diagnostics.1 h)
  refine ⟨q, List.mem_map_of_mem hmem, ?_⟩
  cases o with
  | unreadable e =>
    cases List.mem_singleton.1 hd
    rfl
  | checked metrics =>
    obtain ⟨⟨metric, r⟩, -, hr⟩ := List.mem_filterMap.1 hd
    rcases r with e | _ | _ <;> cases hr
    rfl

/-- What an audit reports is about the queries of its source. -/
theorem Audit.query_of_diagnostic {s : Surroundings (StateM W)}
    {source : StateM W (Except Error (List RuleQuery))} {c : Checker} {x : W} {r : Results}
    (h : (run s source c x).1.1 = .ok r) {d : Diagnostic} (hd : d ∈ r.diagnostics) :
    ∃ qs, (source x).1 = .ok qs ∧ ∃ q ∈ qs, d.kind = q.kind := by
  rcases hx : source x with ⟨e | qs, y⟩
  · rw [run_unlisted s hx] at h
    cases h
  · rw [run_listed s hx] at h
    cases h
    obtain ⟨q, hq, hkind⟩ := Outcomes.query_of_diagnostic hd
    rw [map_fst_auditQueries] at hq
    exact ⟨qs, rfl, q, hq, hkind⟩

/-- **The rules of a listing, one by one and in order.** Every recording or alerting rule becomes
one query, which has the name, the kind and the query of the rule and the name and the file of its
group, and nothing else becomes one; every other rule is noted once. Listings put together have
their queries put together, and the queries of a listing stay the same if groups are cut in two and
if groups without rules and other rules are left out. So wherever its rules come from, no query of
an audit is of another kind, and neither is what an audit reports. -/
theorem Source.flatten_in_places [Wording] (gs : List RuleGroup) :
    (∃ places, Listing.OneEach gs (fun r => r.kind = .recording ∨ r.kind = .alerting)
      (fun g r => RuleQuery.mk g.file g.name r.name r.kind r.query) places (Listing.flatten gs)) ∧
    (∃ places records, Listing.OneEach gs (fun r => r.kind = .other)
        (fun g r => LogRecord.passedOver r.name g.name) places records ∧
      ∀ (b : Backend (StateM W)) (note : LogRecord → StateM W Unit) (w w' : W),
        b.ruleGroups w = (.ok gs, w') →
          ofServer b note w = (.ok (Listing.flatten gs), (records.forM note w').2)) ∧
    (∀ more, Listing.flatten (gs ++ more) = Listing.flatten gs ++ Listing.flatten more) ∧
    (∀ gs', Relation.ReflTransGen Listing.Reshaped gs gs' →
      Listing.flatten gs' = Listing.flatten gs) ∧
    ∀ (source : Source) (s : Surroundings (StateM W))
      (contents : Text → StateM W (Except Text (List UInt8))) (c : Checker) (x : W),
      let queries := source.queries s.backend s.note contents
      (∀ qs, (queries x).1 = .ok qs → ∀ q ∈ qs, q.kind ≠ .other) ∧
        ∀ r, (Audit.run s queries c x).1.1 = .ok r → ∀ d ∈ r.diagnostics, d.kind ≠ .other := by
  refine ⟨?_, ?_, Listing.flatten_append gs, fun _ => Listing.flatten_reshaped, ?_⟩
  · refine Listing.oneEach_flatMap (fun r => ?_) _ gs
    cases r.kind <;> decide
  · obtain ⟨places, hplaces⟩ := Listing.oneEach_flatMap (p := fun r => !r.kind.carriesQuery)
      (q := fun r => r.kind = .other) (fun r => by cases r.kind <;> decide)
      (fun g r => LogRecord.passedOver r.name g.name) gs
    refine ⟨places, _, hplaces, fun b note w w' h => ?_⟩
    rw [ofServer_listed (congrArg Prod.fst h), h, Listing.passedOver, List.map_flatMap]
    simp only [RuleGroup.passedOver, List.map_map]
    rfl
  · intro source s contents c x queries
    refine ⟨fun qs => kind_of_queries, fun r hr d hd => ?_⟩
    obtain ⟨qs, hqs, q, hq, hkind⟩ := Audit.query_of_diagnostic hr hd
    rw [hkind]
    exact kind_of_queries hqs q hq

end

/-- A listing with two groups of one name, a group without rules between them, and a rule without a
query between two with one. -/
def mixedListing : List RuleGroup :=
  [⟨"g", "a.yml", [⟨.alerting, "A", "up"⟩, ⟨.other, "x", []⟩, ⟨.recording, "r", "sum(up)"⟩]⟩,
   ⟨"e", "a.yml", []⟩, ⟨"g", "b.yml", [⟨.alerting, "A", "up"⟩]⟩]

open Plain in
theorem Source.flatten_in_places_mixed :
    let b : Backend (StateM Nat) :=
      ⟨fun k => (.ok mixedListing, k + 1), fun _ _ => pure (.ok [])⟩
    let note : LogRecord → StateM Nat Unit := fun _ k => ((), 10 * k)
    let queries : List RuleQuery :=
      [⟨"a.yml", "g", "A", .alerting, "up"⟩, ⟨"a.yml", "g", "r", .recording, "sum(up)"⟩,
        ⟨"b.yml", "g", "A", .alerting, "up"⟩]
    b.ruleGroups 0 = (.ok mixedListing, 1) ∧
      (∃ places, Listing.OneEach mixedListing (fun r => r.kind = .recording ∨ r.kind = .alerting)
        (fun g r => RuleQuery.mk g.file g.name r.name r.kind r.query) places queries) ∧
      (∃ places records, Listing.OneEach mixedListing (fun r => r.kind = .other)
          (fun g r => LogRecord.passedOver r.name g.name) places records ∧
        (ofServer b note 0).2 = (records.forM note 1).2) ∧
      (ofServer b note 0).2 = 10 := by
  intro b note queries
  have hlisted : b.ruleGroups 0 = (.ok mixedListing, 1) := rfl
  obtain ⟨hqueries, ⟨places, records, hrecords, hserver⟩, -⟩ :=
    Source.flatten_in_places (W := Nat) mixedListing
  have hnotes := congrArg Prod.snd (hserver b note 0 1 hlisted)
  exact ⟨hlisted, hqueries, ⟨places, records, hrecords, hnotes⟩, rfl⟩

end RuleAudit
