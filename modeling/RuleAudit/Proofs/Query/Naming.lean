import RuleAudit.Proofs.Query.Spelling

/-!
The names in a phrase are words of its tokens.

* `Worded P ts`: the words of the tokens satisfy `P`;
* `Phrase.Named P p`: the names of the selectors in the phrase satisfy `P`;
* `Phrase.Reads P fuel`: what the readers of phrases keep, by induction on their fuel;
* `Phrase.named_of_ofTokens?`: a phrase of such tokens has such names.
-/

namespace RuleAudit.Query

/-- The words of the tokens satisfy `P`. -/
def Worded (P : Text → Prop) (ts : List Token) : Prop :=
  ∀ tok ∈ ts, ∀ w, tok.word? = some w → P w

section Worded

variable {P : Text → Prop} {ts rest : List Token} {tok : Token}

theorem Worded.of_suffix (h : Worded P ts) (hrest : rest <:+ ts) : Worded P rest :=
  fun tok htok => h tok (hrest.mem htok)

theorem Worded.tail (h : Worded P (tok :: ts)) : Worded P ts :=
  h.of_suffix (List.suffix_cons tok ts)

theorem Worded.head (h : Worded P (tok :: ts)) {w : Text} (hw : tok.word? = some w) : P w :=
  h tok List.mem_cons_self w hw

end Worded

namespace Phrase

/-! ### What is left of the tokens

Whatever is read, it is read from the start of the tokens. -/

section Suffix

variable {ts rest : List Token}

theorem labels_suffix {ls : Labels} (h : labels ts = some (ls, rest)) : rest <:+ ts := by
  fun_induction labels ts generalizing ls rest with
  | case1 t rest' =>
    obtain ⟨l, -, heq⟩ := Option.map_eq_some_iff.1 h
    cases heq
    simp [List.suffix_cons_iff]
  | case2 t rest' =>
    obtain ⟨l, -, heq⟩ := Option.map_eq_some_iff.1 h
    cases heq
    simp [List.suffix_cons_iff]
  | case3 t rest' hmore ih =>
    obtain ⟨l, -, h⟩ := Option.bind_eq_some_iff.1 h
    obtain ⟨x, hx, heq⟩ := Option.bind_eq_some_iff.1 h
    cases heq
    simp [List.suffix_cons_iff, ih hx]
  | case4 => cases h

theorem labelList_suffix {ls : Labels} (h : labelList ts = some (ls, rest)) : rest <:+ ts := by
  unfold labelList at h
  split at h
  · cases h
    simp [List.suffix_cons_iff]
  · exact (labels_suffix h).trans (List.suffix_cons _ _)
  · cases h

theorem matcher_suffix {m : MatcherPhrase} (h : matcher ts = some (m, rest)) : rest <:+ ts := by
  unfold matcher at h
  repeat' split at h
  all_goals cases h
  all_goals simp [List.suffix_cons_iff]

theorem matcherList_suffix {ms : List MatcherPhrase} (h : matcherList ts = some (ms, rest)) :
    rest <:+ ts := by
  fun_induction matcherList ts generalizing ms rest with
  | case1 => cases h
  | case2 ts m rest' hm =>
    cases h
    exact (List.suffix_cons _ _).trans (matcher_suffix hm)
  | case3 ts m rest' hm =>
    cases h
    exact ((List.suffix_cons _ _).trans (List.suffix_cons _ _)).trans (matcher_suffix hm)
  | case4 ts m rest' hmore hm ih =>
    obtain ⟨x, hx, heq⟩ := Option.map_eq_some_iff.1 h
    cases heq
    exact ((ih hx).trans (List.suffix_cons _ _)).trans (matcher_suffix hm)
  | case5 ts m word rest' hm ih =>
    obtain ⟨x, hx, heq⟩ := Option.map_eq_some_iff.1 h
    cases heq
    exact ((ih hx).trans (List.suffix_cons _ _)).trans (matcher_suffix hm)
  | case6 => cases h

theorem matchers_suffix {ms : Matchers} (h : matchers ts = some (ms, rest)) : rest <:+ ts := by
  unfold matchers at h
  split at h
  · cases h
    exact List.suffix_cons _ _
  · cases h
    simp [List.suffix_cons_iff]
  · obtain ⟨x, hx, heq⟩ := Option.map_eq_some_iff.1 h
    cases heq
    exact matcherList_suffix hx

/-- Labels in parentheses behind a keyword. -/
theorem suffix_of_labelList {α : Type} {f : Labels × List Token → α × List Token} {a : α}
    {tok : Token} (h : (labelList ts).map f = some (a, rest)) (hf : ∀ x, (f x).2 = x.2) :
    rest <:+ tok :: ts := by
  obtain ⟨x, hx, heq⟩ := Option.map_eq_some_iff.1 h
  have hrest : x.2 = rest := (hf x).symm.trans (congrArg Prod.snd heq)
  exact (hrest ▸ labelList_suffix hx).trans (List.suffix_cons tok ts)

theorem grouping_suffix {g : Option Grouping} (h : grouping ts = some (g, rest)) :
    rest <:+ ts := by
  unfold grouping at h
  split at h
  · exact suffix_of_labelList h fun _ => rfl
  · exact suffix_of_labelList h fun _ => rfl
  · cases h
    exact List.suffix_refl _

theorem manySide_suffix {side : Option ManySide} (h : manySide ts = some (side, rest)) :
    rest <:+ ts := by
  unfold manySide at h
  split at h
  · exact suffix_of_labelList h fun _ => rfl
  · cases h
    exact List.suffix_cons _ _
  · exact suffix_of_labelList h fun _ => rfl
  · cases h
    exact List.suffix_cons _ _
  · cases h
    exact List.suffix_refl _

theorem matching_suffix {m : Option (Matching × Option ManySide)}
    (h : matching ts = some (m, rest)) : rest <:+ ts := by
  unfold matching at h
  split at h
  case h_3 =>
    cases h
    exact List.suffix_refl _
  all_goals
    obtain ⟨x, hx, h⟩ := Option.bind_eq_some_iff.1 h
    obtain ⟨y, hy, heq⟩ := Option.bind_eq_some_iff.1 h
    cases heq
    exact ((manySide_suffix hy).trans (labelList_suffix hx)).trans (List.suffix_cons _ _)

theorem modifier_suffix {m : Modifier} (h : modifier ts = some (m, rest)) : rest <:+ ts := by
  unfold modifier at h
  split at h
  · obtain ⟨x, hx, heq⟩ := Option.map_eq_some_iff.1 h
    cases heq
    exact (matching_suffix hx).trans (List.suffix_cons _ _)
  · exact suffix_of_labelList h fun _ => rfl
  · exact suffix_of_labelList h fun _ => rfl
  · obtain ⟨x, hx, heq⟩ := Option.map_eq_some_iff.1 h
    cases heq
    exact matching_suffix hx

end Suffix

/-! ### The names of selectors -/

/-- The names of the selectors in the phrase satisfy `P`. -/
inductive Named (P : Text → Prop) : Phrase → Prop
  | aggregate {op : Aggregator} {grouping : Option Grouping} {args : List Phrase} {surplus : Bool}
    (h : ∀ p ∈ args, Named P p) : Named P (.aggregate op grouping args surplus)
  | call {name : Text} {args : List Phrase} {surplus : Bool} (h : ∀ p ∈ args, Named P p) :
    Named P (.call name args surplus)
  | binary {op : BinaryOp} {modifier : Modifier} {left right : Phrase} (hleft : Named P left)
    (hright : Named P right) : Named P (.binary op modifier left right)
  | paren {body : Phrase} (h : Named P body) : Named P (.paren body)
  | plus {body : Phrase} (h : Named P body) : Named P (.plus body)
  | minus {body : Phrase} (h : Named P body) : Named P (.minus body)
  | number {t : Text} : Named P (.number t)
  | string {t : Text} : Named P (.string t)
  | vector {name : Option Text} {matchers : Option Matchers} (h : ∀ m ∈ name, P m) :
    Named P (.vector name matchers)
  | matrix {body : Phrase} {range : Text} (h : Named P body) : Named P (.matrix body range)
  | subquery {body : Phrase} {range : Text} {step : Option Text} (h : Named P body) :
    Named P (.subquery body range step)
  | offset {body : Phrase} {negative : Bool} {duration : Text} (h : Named P body) :
    Named P (.offset body negative duration)
  | atTime {body : Phrase} {time : TimePhrase} (h : Named P body) : Named P (.atTime body time)
  | flawed {body : Phrase} {flaw : Flaw} (h : Named P body) : Named P (.flawed body flaw)

section Named

variable {P : Text → Prop} {ts rest : List Token} {body p : Phrase}

/-- A token that may be the name of a metric is a word. -/
theorem word?_of_metric? {tok : Token} {w : Text} (h : metric? tok = some w) :
    tok.word? = some w := by
  unfold metric? at h
  split at h <;> cases h <;> rfl

theorem selector_named (h : selector ts = some (p, rest)) (hts : Worded P ts) :
    p.Named P ∧ Worded P rest := by
  unfold selector at h
  split at h
  next ts =>
    obtain ⟨x, hx, heq⟩ := Option.map_eq_some_iff.1 h
    cases heq
    exact ⟨.vector nofun, hts.tail.of_suffix (matchers_suffix hx)⟩
  next tok ts _ =>
    obtain ⟨w, hw, h⟩ := Option.bind_eq_some_iff.1 h
    have hname : ∀ m ∈ some w, P m := by
      intro m hm
      cases hm
      exact hts.head (word?_of_metric? hw)
    split at h
    · obtain ⟨x, hx, heq⟩ := Option.map_eq_some_iff.1 h
      cases heq
      exact ⟨.vector hname, hts.tail.tail.of_suffix (matchers_suffix hx)⟩
    · cases h
      exact ⟨.vector hname, hts.tail⟩
  next => cases h

/-- What is put behind a phrase adds no name. -/
theorem extend_named (h : extend body ts = some (some (p, rest))) (hbody : body.Named P) :
    p.Named P ∧ rest <:+ ts := by
  unfold extend withOffset withTime withBrackets at h
  repeat' split at h
  all_goals cases h
  all_goals
    refine ⟨?_, by simp [List.suffix_cons_iff]⟩
    constructor
    exact hbody

/-- With this much fuel, whatever is read from such tokens has such names, and such tokens are
left. -/
structure Reads (P : Text → Prop) (fuel : Nat) : Prop where
  expr : ∀ {least ts p rest}, expr fuel least ts = some (p, rest) → Worded P ts →
    p.Named P ∧ Worded P rest
  operand : ∀ {ts p rest}, operand fuel ts = some (p, rest) → Worded P ts →
    p.Named P ∧ Worded P rest
  climb : ∀ {least left ts p rest}, climb fuel least left ts = some (p, rest) → left.Named P →
    Worded P ts → p.Named P ∧ Worded P rest
  arguments : ∀ {ts args surplus rest}, arguments fuel ts = some (args, surplus, rest) →
    Worded P ts → (∀ p ∈ args, p.Named P) ∧ Worded P rest
  moreArguments : ∀ {done surplus ts args surplus' rest},
    moreArguments fuel done surplus ts = some (args, surplus', rest) → (∀ p ∈ done, p.Named P) →
    Worded P ts → (∀ p ∈ args, p.Named P) ∧ Worded P rest

theorem reads_zero : Reads P 0 where
  expr h := by
    rw [Phrase.expr] at h
    cases h
  operand h := by
    rw [Phrase.operand] at h
    cases h
  climb h := by
    rw [Phrase.climb] at h
    cases h
  arguments h := by
    rw [Phrase.arguments] at h
    cases h
  moreArguments h := by
    rw [Phrase.moreArguments] at h
    cases h

namespace Reads

variable {fuel : Nat}

theorem expr_succ (hreads : Reads P fuel) {least : Nat}
    (h : Phrase.expr (fuel + 1) least ts = some (p, rest)) (hts : Worded P ts) :
    p.Named P ∧ Worded P rest := by
  rw [Phrase.expr] at h
  obtain ⟨⟨left, ts'⟩, hleft, h⟩ := Option.bind_eq_some_iff.1 h
  obtain ⟨hnamed, hts'⟩ := hreads.operand hleft hts
  exact hreads.climb h hnamed hts'

theorem operand_succ (hreads : Reads P fuel)
    (h : Phrase.operand (fuel + 1) ts = some (p, rest)) (hts : Worded P ts) :
    p.Named P ∧ Worded P rest := by
  unfold Phrase.operand at h
  dsimp only at h
  split at h
  · obtain ⟨⟨body, ts'⟩, hbody, heq⟩ := Option.map_eq_some_iff.1 h
    cases heq
    obtain ⟨hnamed, hrest⟩ := hreads.expr hbody hts.tail
    exact ⟨.plus hnamed, hrest⟩
  · obtain ⟨⟨body, ts'⟩, hbody, heq⟩ := Option.map_eq_some_iff.1 h
    cases heq
    obtain ⟨hnamed, hrest⟩ := hreads.expr hbody hts.tail
    exact ⟨.minus hnamed, hrest⟩
  · cases h
    exact ⟨.number, hts.tail⟩
  · cases h
    exact ⟨.string, hts.tail⟩
  · obtain ⟨⟨body, ts'⟩, hbody, h⟩ := Option.bind_eq_some_iff.1 h
    obtain ⟨hnamed, hts'⟩ := hreads.expr hbody hts.tail
    dsimp only at h
    split at h <;> cases h
    exact ⟨.paren hnamed, hts'.tail⟩
  · obtain ⟨⟨args, surplus, ts'⟩, hargs, h⟩ := Option.bind_eq_some_iff.1 h
    cases h
    obtain ⟨hnamed, hrest⟩ := hreads.arguments hargs hts.tail.tail
    exact ⟨.call hnamed, hrest⟩
  · split at h
    case h_4 => exact selector_named h hts
    · obtain ⟨⟨args, surplus, ts₁⟩, hargs, h⟩ := Option.bind_eq_some_iff.1 h
      obtain ⟨⟨g, ts₂⟩, hg, h⟩ := Option.bind_eq_some_iff.1 h
      cases h
      obtain ⟨hnamed, hts₁⟩ := hreads.arguments hargs hts.tail.tail
      exact ⟨.aggregate hnamed, hts₁.of_suffix (grouping_suffix hg)⟩
    -- The labels stand before the arguments, behind either keyword.
    all_goals
      obtain ⟨⟨g, ts₁⟩, hg, h⟩ := Option.bind_eq_some_iff.1 h
      have hts₁ : Worded P ts₁ := hts.tail.of_suffix (grouping_suffix hg)
      dsimp only at h
      split at h
      case h_2 => cases h
      obtain ⟨⟨args, surplus, ts₂⟩, hargs, h⟩ := Option.bind_eq_some_iff.1 h
      cases h
      obtain ⟨hnamed, hrest⟩ := hreads.arguments hargs hts₁.tail
      exact ⟨.aggregate hnamed, hrest⟩
  · exact selector_named h hts

theorem climb_succ (hreads : Reads P fuel) {least : Nat} {left : Phrase}
    (h : Phrase.climb (fuel + 1) least left ts = some (p, rest)) (hleft : left.Named P)
    (hts : Worded P ts) : p.Named P ∧ Worded P rest := by
  unfold Phrase.climb at h
  dsimp only at h
  split at h
  · cases h
  next left' ts' hextend =>
    obtain ⟨hnamed, hrest⟩ := extend_named hextend hleft
    exact hreads.climb h hnamed (hts.of_suffix hrest)
  · split at h
    · cases h
      exact ⟨hleft, hts⟩
    split at h
    · cases h
      exact ⟨hleft, hts⟩
    split at h
    · cases h
      exact ⟨hleft, hts⟩
    obtain ⟨⟨m, ts₁⟩, hm, h⟩ := Option.bind_eq_some_iff.1 h
    obtain ⟨⟨right, ts₂⟩, hright, h⟩ := Option.bind_eq_some_iff.1 h
    have hts₁ : Worded P ts₁ := hts.tail.of_suffix (modifier_suffix hm)
    obtain ⟨hnamed, hts₂⟩ := hreads.expr hright hts₁
    exact hreads.climb h (.binary hleft hnamed) hts₂

theorem arguments_succ (hreads : Reads P fuel) {args : List Phrase} {surplus : Bool}
    (h : Phrase.arguments (fuel + 1) ts = some (args, surplus, rest)) (hts : Worded P ts) :
    (∀ p ∈ args, p.Named P) ∧ Worded P rest := by
  unfold Phrase.arguments at h
  dsimp only at h
  split at h
  · cases h
    exact ⟨nofun, hts.tail⟩
  · obtain ⟨⟨q, ts'⟩, hq, h⟩ := Option.bind_eq_some_iff.1 h
    obtain ⟨hnamed, hts'⟩ := hreads.expr hq hts
    exact hreads.moreArguments h (List.forall_mem_singleton.2 hnamed) hts'

theorem moreArguments_succ (hreads : Reads P fuel) {done args : List Phrase}
    {surplus surplus' : Bool}
    (h : Phrase.moreArguments (fuel + 1) done surplus ts = some (args, surplus', rest))
    (hdone : ∀ p ∈ done, p.Named P) (hts : Worded P ts) :
    (∀ p ∈ args, p.Named P) ∧ Worded P rest := by
  have hreverse : ∀ p ∈ done.reverse, p.Named P := fun p hp => hdone p (List.mem_reverse.1 hp)
  unfold Phrase.moreArguments at h
  dsimp only at h
  split at h
  · cases h
    exact ⟨hreverse, hts.tail⟩
  · exact hreads.moreArguments h hdone hts.tail
  · cases h
    exact ⟨hreverse, hts.tail.tail⟩
  · obtain ⟨⟨q, ts'⟩, hq, h⟩ := Option.bind_eq_some_iff.1 h
    obtain ⟨hnamed, hts'⟩ := hreads.expr hq hts.tail
    exact hreads.moreArguments h (List.forall_mem_cons.2 ⟨hnamed, hdone⟩) hts'
  · cases h

theorem succ (hreads : Reads P fuel) : Reads P (fuel + 1) where
  expr := hreads.expr_succ
  operand := hreads.operand_succ
  climb := hreads.climb_succ
  arguments := hreads.arguments_succ
  moreArguments := hreads.moreArguments_succ

end Reads

theorem reads : ∀ fuel : Nat, Reads P fuel
  | 0 => reads_zero
  | fuel + 1 => (reads fuel).succ

/-- **The phrase of tokens has names from among their words.** -/
theorem named_of_ofTokens? (h : ofTokens? ts = some p) (hts : Worded P ts) : p.Named P := by
  unfold ofTokens? at h
  split at h
  next hexpr =>
    cases h
    exact ((reads _).expr hexpr hts).1
  next hexpr =>
    cases h
    exact ((reads _).expr hexpr hts).1
  next => cases h

end Named

end Phrase

end RuleAudit.Query
