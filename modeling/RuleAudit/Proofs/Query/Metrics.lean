import RuleAudit.Lookup
import RuleAudit.Proofs.Envelope
import RuleAudit.Proofs.Query.Naming
import RuleAudit.Proofs.Query.Selection

/-!
The metrics of a query are words of its text.

* `Phrase.Named.selected`: an expression selects by the names in its phrase;
* `metrics_spelt`: each metric of a query is a piece of the query, and stands in its selector as it
  is.
-/

namespace RuleAudit.Query

/-- A check that is passed leaves what comes behind it. -/
theorem ok_of_check {α : Type} {c : Prop} [Decidable c] {message : Text}
    {next : Unit → Except Text α} {a : α}
    (h : (if c then Except.error message >>= next else next ()) = .ok a) : next () = .ok a := by
  split at h
  · cases h
  · exact h

/-! ### What an expression made of others selects -/

theorem Selector.check_eq_ok {s : Selector} {e : Expr} (h : s.check = .ok e) : e = .vector s := by
  unfold check at h
  repeat' split at h
  all_goals cases h
  all_goals rfl

namespace Expr

theorem mem_selectedAll {m : Text} {es : List Expr} :
    m ∈ selectedAll es ↔ ∃ e ∈ es, m ∈ e.selected := by
  simp only [mem_selectedAll_iff, mem_selected_iff]

variable {e e' left right : Expr}

theorem selected_moveBy {ms : Int} (h : e.moveBy ms = .ok e') : e'.selected = e.selected := by
  unfold moveBy at h
  dsimp only at h
  repeat' split at h
  all_goals cases h
  all_goals rfl

theorem selected_moveTo {time : AtTime} (h : e.moveTo time = .ok e') :
    e'.selected = e.selected := by
  unfold moveTo at h
  dsimp only at h
  repeat' split at h
  all_goals cases h
  all_goals rfl

theorem selected_negated (h : e.negated = .ok e') : e'.selected = e.selected := by
  unfold negated at h
  repeat' split at h
  all_goals cases h
  all_goals rfl

theorem selected_overRange {range : Nat} (h : e.overRange range = .ok e') :
    e'.selected = e.selected := by
  unfold overRange at h
  repeat' split at h
  all_goals cases h
  rfl

theorem selected_subqueryOf {range : Nat} {step : Option Nat}
    (h : e.subqueryOf range step = .ok e') : e'.selected = e.selected := by
  unfold subqueryOf at h
  split at h <;> cases h
  rfl

/-- The checks come one after another, so what is built behind the last of them is taken back
through each. -/
theorem combine_eq_ok {op : BinaryOp} {bool : Bool}
    {matching : Option (Matching × Option ManySide)}
    (h : combine op bool matching left right = .ok e) :
    e = .binary op bool matching left right := by
  unfold combine at h
  extract_lets scalars vectors instant built labels types sides sets both comparison at h
  have hbuilt (h : built () = .ok e) : e = .binary op bool matching left right :=
    (Except.ok.inj h).symm
  have hlabels (h : labels () = .ok e) : e = .binary op bool matching left right := by
    dsimp only [labels] at h
    split at h
    · exact hbuilt (ok_of_check h)
    · exact hbuilt h
  have htypes (h : types () = .ok e) : e = .binary op bool matching left right :=
    hlabels (ok_of_check h)
  have hsides (h : sides () = .ok e) : e = .binary op bool matching left right := by
    dsimp only [sides] at h
    split at h
    · exact htypes (ok_of_check h)
    · exact htypes h
  have hsets (h : sets () = .ok e) : e = .binary op bool matching left right := by
    dsimp only [sets] at h
    split at h
    · exact hsides (ok_of_check h)
    · exact htypes h
  have hboth (h : both () = .ok e) : e = .binary op bool matching left right := by
    dsimp only [both] at h
    split at h
    · split at h
      · cases h
      · exact hsets h
    · exact hsets h
  exact hboth (ok_of_check (ok_of_check h))

theorem selected_aggregateOf {op : Aggregator} {grouping : Option Grouping} {es : List Expr}
    (h : aggregateOf op grouping es = .ok e) : ∃ body ∈ es, e.selected = body.selected := by
  unfold aggregateOf at h
  dsimp only at h
  split at h
  · cases h
  next body _ =>
    obtain ⟨_, -, h⟩ := except_bind_eq_ok.1 h
    cases h
    exact ⟨body, List.mem_singleton_self body, rfl⟩
  · cases h
  next t parameter body _ =>
    obtain ⟨_, -, h⟩ := except_bind_eq_ok.1 h
    obtain ⟨_, -, h⟩ := except_bind_eq_ok.1 h
    cases h
    exact ⟨body, by simp, rfl⟩
  · cases h

theorem callOf_eq_ok {f : Function} {es : List Expr} (h : callOf f es = .ok e) :
    e = .call f es := by
  unfold callOf at h
  extract_lets built checked at h
  have hbuilt (h : built () = .ok e) : e = .call f es := (Except.ok.inj h).symm
  split at h
  · cases h
  · dsimp only [checked] at h
    split at h
    · obtain ⟨_, -, h⟩ := except_bind_eq_ok.1 h
      exact hbuilt h
    · exact hbuilt h

end Expr

/-! ### What the expression of a phrase selects -/

namespace Phrase

theorem exists_of_meanings {ps : List Phrase} {es : List Expr} (h : meanings ps = .ok es) :
    ∀ e ∈ es, ∃ p ∈ ps, p.meaning = .ok e := by
  induction ps generalizing es with
  | nil =>
    rw [meanings] at h
    cases h
    exact nofun
  | cons p ps ih =>
    rw [meanings] at h
    obtain ⟨e, he, h⟩ := except_bind_eq_ok.1 h
    obtain ⟨es', hes, h⟩ := except_bind_eq_ok.1 h
    cases h
    refine List.forall_mem_cons.2 ⟨⟨p, List.mem_cons_self, he⟩, fun e' he' => ?_⟩
    obtain ⟨q, hq, hmeaning⟩ := ih hes e' he'
    exact ⟨q, List.mem_cons_of_mem p hq, hmeaning⟩

section Meaning

variable {args : List Phrase} {surplus : Bool} {e : Expr}

theorem meaning_aggregate {op : Aggregator} {grouping : Option Grouping}
    (h : (aggregate op grouping args surplus).meaning = .ok e) :
    ∃ es, meanings args = .ok es ∧ Expr.aggregateOf op grouping es = .ok e := by
  cases grouping with
  | none =>
    cases surplus with
    | true => cases h
    | false => exact except_bind_eq_ok.1 h
  | some g =>
    obtain ⟨_, -, h⟩ := except_bind_eq_ok.1 h
    cases surplus with
    | true => cases h
    | false => exact except_bind_eq_ok.1 h

theorem meaning_call {name : Text} (h : (call name args surplus).meaning = .ok e) :
    ∃ f es, meanings args = .ok es ∧ Expr.callOf f es = .ok e := by
  conv at h =>
    lhs
    whnf
  split at h
  · cases h
  next f _ =>
    cases surplus with
    | true => cases h
    | false => exact ⟨f, except_bind_eq_ok.1 h⟩

theorem meaning_vector {name : Option Text} {matchers : Option Matchers}
    (h : (vector name matchers).meaning = .ok e) : ∃ ms, e = .vector ⟨name, ms, .unmoved⟩ := by
  cases matchers with
  | none => exact ⟨[], Selector.check_eq_ok h⟩
  | some ms =>
    obtain ⟨ms', -, h⟩ := except_bind_eq_ok.1 h
    exact ⟨ms', Selector.check_eq_ok h⟩

end Meaning

/-- **An expression selects by the names in its phrase.** -/
theorem Named.selected {P : Text → Prop} {p : Phrase} {e : Expr} (h : p.Named P)
    (he : p.meaning = .ok e) : ∀ m ∈ e.selected, P m := by
  induction h generalizing e with
  | aggregate _ ih =>
    obtain ⟨es, hes, he⟩ := meaning_aggregate he
    obtain ⟨body, hbody, hselected⟩ := Expr.selected_aggregateOf he
    obtain ⟨p, hp, hmeaning⟩ := exists_of_meanings hes body hbody
    rw [hselected]
    exact ih p hp hmeaning
  | call _ ih =>
    obtain ⟨f, es, hes, he⟩ := meaning_call he
    rw [Expr.callOf_eq_ok he, Expr.selected]
    intro m hm
    obtain ⟨arg, harg, hm⟩ := Expr.mem_selectedAll.1 hm
    obtain ⟨p, hp, hmeaning⟩ := exists_of_meanings hes arg harg
    exact ih p hp hmeaning m hm
  | binary _ _ ihleft ihright =>
    obtain ⟨left, hleft, he⟩ := except_bind_eq_ok.1 he
    obtain ⟨modifier, -, he⟩ := except_bind_eq_ok.1 he
    obtain ⟨right, hright, he⟩ := except_bind_eq_ok.1 he
    rw [Expr.combine_eq_ok he, Expr.selected]
    exact List.forall_mem_append.2 ⟨ihleft hleft, ihright hright⟩
  | paren _ ih =>
    obtain ⟨body, hbody, he⟩ := except_bind_eq_ok.1 he
    cases he
    rw [Expr.selected]
    exact ih hbody
  | plus _ ih => exact ih he
  | minus _ ih =>
    obtain ⟨body, hbody, he⟩ := except_bind_eq_ok.1 he
    rw [Expr.selected_negated he]
    exact ih hbody
  | number =>
    obtain ⟨x, -, he⟩ := except_bind_eq_ok.1 he
    cases he
    exact nofun
  | string =>
    cases he
    exact nofun
  | vector hname =>
    obtain ⟨ms, rfl⟩ := meaning_vector he
    exact fun m hm => hname m (Expr.mem_metric?_iff.1 hm).2
  | matrix _ ih =>
    obtain ⟨body, hbody, he⟩ := except_bind_eq_ok.1 he
    obtain ⟨range, -, he⟩ := except_bind_eq_ok.1 he
    rw [Expr.selected_overRange he]
    exact ih hbody
  | subquery _ ih =>
    obtain ⟨body, hbody, he⟩ := except_bind_eq_ok.1 he
    obtain ⟨range, -, he⟩ := except_bind_eq_ok.1 he
    obtain ⟨step, -, he⟩ := except_bind_eq_ok.1 he
    rw [Expr.selected_subqueryOf he]
    exact ih hbody
  | offset _ ih =>
    obtain ⟨body, hbody, he⟩ := except_bind_eq_ok.1 he
    obtain ⟨ms, -, he⟩ := except_bind_eq_ok.1 he
    rw [Expr.selected_moveBy he]
    exact ih hbody
  | atTime _ ih =>
    obtain ⟨body, hbody, he⟩ := except_bind_eq_ok.1 he
    obtain ⟨time, -, he⟩ := except_bind_eq_ok.1 he
    rw [Expr.selected_moveTo he]
    exact ih hbody
  | flawed _ _ => cases he

end Phrase

/-! ### The metrics of a query -/

/-- A query that is accepted has tokens, these make a phrase, and the phrase has a meaning. -/
theorem stages_of_parse {t : Text} {e : Expr} (h : parse t = .ok e) :
    ∃ ts p, tokens t = .ok ts ∧ Phrase.ofTokens? ts = some p ∧ p.meaning = .ok e := by
  unfold parse at h
  obtain ⟨ts, hts, h⟩ := except_bind_eq_ok.1 h
  split at h
  · cases h
  split at h
  · cases h
  next p hp => exact ⟨ts, p, hts, hp, h⟩

/-- Nothing in a word is escaped. -/
theorem flatMap_escapeChar {w : Text} (h : ∀ c ∈ w, isMetricChar c = true) :
    w.flatMap Lookup.escapeChar = w := by
  have hone : ∀ c ∈ w, Lookup.escapeChar c = [c] := by
    intro c hc
    have hne {d : Char} (hd : isMetricChar d = false) : c ≠ d := by
      rintro rfl
      exact Bool.false_ne_true (hd.symm.trans (h c hc))
    rw [Lookup.escapeChar, if_neg (hne (by decide)), if_neg (hne (by decide)),
      if_neg (hne (by decide))]
  rw [List.flatMap_congr hone, List.flatMap_singleton']

theorem isMetricChar_cases {c : Char} (h : isMetricChar c = true) :
    c.isAlphanum = true ∨ c = '_' ∨ c = ':' := by
  simp only [isMetricChar, isLabelChar, isNameStart, Bool.or_eq_true, beq_iff_eq] at h
  rw [Char.isAlphanum, Bool.or_eq_true]
  tauto

/-- **The metrics of a query come from its text.** Each of them stands in the query in one piece, is
made up of letters, digits, underscores and colons, does not begin with a digit, and is put into its
selector as it is. -/
theorem metrics_spelt {t : Text} {e : Expr} (h : parse t = .ok e) :
    ∀ m ∈ e.metrics, m ≠ [] ∧ m <:+: t ∧
      (∀ c ∈ m, c.isAlphanum = true ∨ c = '_' ∨ c = ':') ∧ (∀ c ∈ m.head?, c.isDigit = false) ∧
      Lookup.selector m = "\x7b__name__=\"" ++ m ++ "\"\x7d" := by
  intro m hm
  obtain ⟨ts, p, hts, hp, hmeaning⟩ := stages_of_parse h
  have hnamed : p.Named (Spells t) := Phrase.named_of_ofTokens? hp (tokens_spelt hts)
  obtain ⟨hpiece, hne, hchars, hhead⟩ : Spells t m :=
    hnamed.selected hmeaning m (Text.mem_sortedSet.1 hm)
  have hselector : Lookup.selector m = "\x7b__name__=\"" ++ m ++ "\"\x7d" :=
    congrArg (fun body : Text => ("\x7b__name__=\"" ++ body ++ "\"\x7d" : Text))
      (flatMap_escapeChar hchars)
  exact ⟨hne, hpiece, fun c hc => isMetricChar_cases (hchars c hc), hhead, hselector⟩

/-- A name with a colon, and a keyword that names a metric. -/
theorem metrics_spelt_keyword :
    let t : Text := "abs(a:b) + Offset\x7b\x7d"
    ∃ e, parse t = .ok e ∧ e.metrics = ["Offset", "a:b"] ∧
      ∀ m ∈ e.metrics, m ≠ [] ∧ m <:+: t ∧
        (∀ c ∈ m, c.isAlphanum = true ∨ c = '_' ∨ c = ':') ∧ (∀ c ∈ m.head?, c.isDigit = false) ∧
        Lookup.selector m = "\x7b__name__=\"" ++ m ++ "\"\x7d" := by
  intro t
  let e : Expr := .binary .add false none
    (.call ⟨"abs", [.vector], .exact, .vector⟩ [Expr.bare "a:b"]) (Expr.bare "Offset")
  have hparse : parse t = .ok e :=
    parse_eq_ok [.name "abs", .leftParen, .colonName "a:b", .rightParen, .operator .add,
        .keyword .offset "Offset", .leftBrace, .rightBrace, .stop]
      (.binary .add (.standard false none) (.call "abs" [.vector (some "a:b") none] false)
        (.vector (some "Offset") (some (.list [])))) (by rfl) (by rfl) (by rfl)
  exact ⟨e, hparse, by rfl, metrics_spelt hparse⟩

end RuleAudit.Query
