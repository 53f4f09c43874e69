import RuleAudit.Query.Meaning

/-!
The words of a query stand in its text as they are.

* `Token.word?`: the word of a token that has one;
* `Spells`: a text has a word in one piece, and the word could be the name of a metric;
* `tokens_spelt`: a text spells the words of all its tokens.
-/

namespace RuleAudit.Query

/-! ### Words -/

/-- The text of a token that can be a name: of names and of keywords. -/
def Token.word? : Token → Option Text
  | .name t => some t
  | .colonName t => some t
  | .keyword _ t => some t
  | _ => none

/-- A word is of letters, digits, underscores and colons, and begins with no digit. -/
structure IsWord (w : Text) : Prop where
  ne_nil : w ≠ []
  chars : ∀ c ∈ w, isMetricChar c = true
  head : ∀ c ∈ w.head?, c.isDigit = false

/-- The word stands in the text in one piece. -/
structure Spells (t w : Text) : Prop where
  piece : w <:+: t
  isWord : IsWord w

/-- The text begins with the word of the token, if the token has one. -/
def Begins (t : Text) (tok : Token) : Prop := ∀ w, tok.word? = some w → w <+: t ∧ IsWord w

theorem begins_of_none {t : Text} {tok : Token} (h : tok.word? = none) : Begins t tok := by
  intro w hw
  rw [h] at hw
  cases hw

/-! ### Characters of words -/

theorem isMetricChar_of_isNameStart {c : Char} (h : isNameStart c = true) :
    isMetricChar c = true := by
  simp [isMetricChar, isLabelChar, h]

theorem isMetricChar_of_isLabelChar {c : Char} (h : isLabelChar c = true) :
    isMetricChar c = true := by
  simp [isMetricChar, h]

theorem isDigit_of_isNameStart {c : Char} (h : isNameStart c = true) : c.isDigit = false := by
  rw [Bool.eq_false_iff]
  intro hdigit
  rw [isNameStart, Bool.or_eq_true, beq_iff_eq] at h
  obtain rfl | hletter := h
  · exact absurd hdigit (by decide)
  · have hdigit : c.toNat ≤ 57 := of_decide_eq_true (Bool.and_eq_true_iff.1 hdigit).2
    obtain hupper | hlower := Bool.or_eq_true_iff.1 hletter
    · have hupper : 65 ≤ c.toNat := (of_decide_eq_true hupper).1
      omega
    · have hlower : 97 ≤ c.toNat := of_decide_eq_true (Bool.and_eq_true_iff.1 hlower).1
      omega

/-- A character that may begin a word, and characters of a word behind it. -/
theorem isWord_cons {c : Char} {w : Text} (hc : isMetricChar c = true) (hdigit : c.isDigit = false)
    (hw : ∀ d ∈ w, isMetricChar d = true) : IsWord (c :: w) where
  ne_nil := List.cons_ne_nil c w
  chars := List.forall_mem_cons.2 ⟨hc, hw⟩
  head d hd := by
    obtain rfl := Option.some.inj hd
    exact hdigit

/-- A first character with all that follows it and satisfies `p` begins the text. -/
theorem begins_run {p : Char → Bool} (hp : ∀ d, p d = true → isMetricChar d = true) {c : Char}
    (hc : isMetricChar c = true) (hdigit : c.isDigit = false) (rest : Text) :
    c :: rest.takeWhile p <+: c :: rest ∧ IsWord (c :: rest.takeWhile p) := by
  refine ⟨(List.cons_prefix_cons).2 ⟨rfl, List.takeWhile_prefix p⟩, isWord_cons hc hdigit ?_⟩
  exact fun d hd => hp d (List.all_eq_true.1 List.all_takeWhile d hd)

/-! ### Tokens one by one -/

theorem word?_wordToken {t w : Text} (h : (wordToken t).word? = some w) : w = t := by
  unfold wordToken at h
  split at h
  · cases h
  · split at h
    · exact (Option.some.inj h).symm
    · split at h <;> exact (Option.some.inj h).symm

theorem word?_mark {c : Char} {tok : Token} (h : mark? c = some tok) : tok.word? = none := by
  unfold mark? at h
  repeat' split at h
  all_goals first
    | (cases h; rfl)
    | cases h

theorem word?_lexDuration {fault number rest rest' : Text} {tok : Token}
    (h : lexDuration fault number rest = .ok (tok, rest')) : tok.word? = none := by
  unfold lexDuration at h
  dsimp only at h
  split at h <;> cases h
  rfl

theorem word?_lexNumber {c : Char} {rest rest' : Text} {tok : Token}
    (h : lexNumber c rest = .ok (tok, rest')) : tok.word? = none := by
  unfold lexNumber at h
  dsimp only at h
  split at h
  · cases h
    rfl
  · exact word?_lexDuration h

theorem word?_quoted {c : Char} {rest rest' : Text} {tok : Token}
    (h : (lexString c rest).map (fun x => (Token.string x.1, x.2)) = .ok (tok, rest')) :
    tok.word? = none := by
  cases hs : lexString c rest with
  | error e =>
    rw [hs] at h
    cases h
  | ok x =>
    rw [hs] at h
    cases h
    rfl

theorem word?_lexMark {c : Char} {rest rest' : Text} {tok : Token}
    (h : lexMark c rest = .ok (tok, rest')) : tok.word? = none := by
  unfold lexMark at h
  split at h <;> cases h <;> rfl

theorem word?_lexBraceMark {c : Char} {rest rest' : Text} {tok : Token}
    (h : lexBraceMark c rest = .ok (tok, rest')) : tok.word? = none := by
  unfold lexBraceMark at h
  split at h <;> cases h <;> rfl

theorem lexPlain_begins {c : Char} {rest rest' : Text} {tok : Token}
    (h : lexPlain c rest = .ok (tok, rest')) : Begins (c :: rest) tok := by
  unfold lexPlain at h
  split at h
  next hmark =>
    cases h
    exact begins_of_none (word?_mark hmark)
  split at h
  next => exact begins_of_none (word?_lexNumber h)
  split at h
  next hstart =>
    cases h
    intro w hw
    rw [word?_wordToken hw]
    rcases hstart with hname | rfl
    · exact begins_run (fun _ => id) (isMetricChar_of_isNameStart hname)
        (isDigit_of_isNameStart hname) rest
    · exact begins_run (fun _ => id) (by decide) (by decide) rest
  split at h
  next => exact begins_of_none (word?_quoted h)
  next => exact begins_of_none (word?_lexMark h)

theorem joiner?_begins {c : Char} {rest rest' : Text} {tok : Token}
    (h : joiner? c rest = some (tok, rest')) : Begins (c :: rest) tok := by
  unfold joiner? at h
  split at h
  next d more =>
    split at h
    next hor =>
      cases h
      intro w hw
      cases hw
      refine ⟨⟨' ' :: more, rfl⟩, ?_⟩
      obtain ⟨rfl | rfl, rfl | rfl⟩ := hor <;>
        exact isWord_cons (by decide) (by decide) (by simp [isMetricChar, isLabelChar, isNameStart])
    next => cases h
  next => cases h

theorem lexBraces_begins {c : Char} {rest rest' : Text} {tok : Token}
    (h : lexBraces c rest = .ok (tok, rest')) : Begins (c :: rest) tok := by
  unfold lexBraces at h
  split at h
  next hname =>
    split at h
    next hjoiner =>
      cases h
      exact joiner?_begins hjoiner
    next =>
      cases h
      intro w hw
      cases hw
      exact begins_run (fun _ => isMetricChar_of_isLabelChar) (isMetricChar_of_isNameStart hname)
        (isDigit_of_isNameStart hname) rest
  split at h
  next => exact begins_of_none (word?_quoted h)
  next => exact begins_of_none (word?_lexBraceMark h)

/-! ### Tokens one after another -/

/-- A result that is built from a token and the text after it gives that token. -/
theorem token_of_map {r : Except Text (Token × Text)} {f : Token × Text → Step} {s : Step}
    {p : Token → Prop} (hf : ∀ x, (f x).token = some x.1) (h : r.map f = .ok s)
    (hr : ∀ tok rest, r = .ok (tok, rest) → p tok) : ∀ tok ∈ s.token, p tok := by
  cases r with
  | error e => cases h
  | ok x =>
    cases h
    intro tok htok
    obtain rfl := Option.some.inj ((hf x).symm.trans htok)
    exact hr x.1 x.2 rfl

/-- The text that a token is read from begins with the word of the token. -/
theorem step_begins {mode : Mode} {parens : Nat} {c : Char} {rest : Text} {s : Step}
    (h : step mode parens c rest = .ok s) : ∀ tok ∈ s.token, Begins (c :: rest) tok := by
  have blank {m : Mode} {n : Nat} {r : Text}
      (h : Except.ok (ε := Text) (Step.mk none m n r) = .ok s) :
      ∀ tok ∈ s.token, Begins (c :: rest) tok := by
    cases h
    exact nofun
  have bare {tok : Token} {m : Mode} {n : Nat} {r : Text} (hnone : tok.word? = none)
      (h : Except.ok (ε := Text) (Step.mk (some tok) m n r) = .ok s) :
      ∀ tok ∈ s.token, Begins (c :: rest) tok := by
    cases h
    intro k hk
    exact Option.some.inj hk ▸ begins_of_none hnone
  cases mode with
  | plain =>
    change stepPlain parens c rest = .ok s at h
    unfold stepPlain at h
    split at h
    · exact blank h
    split at h
    · exact blank h
    split at h
    · exact bare rfl h
    split at h
    · split at h
      · cases h
      · exact bare rfl h
    split at h
    · exact bare rfl h
    split at h
    · exact bare rfl h
    · exact token_of_map (fun _ => rfl) h fun _ _ => lexPlain_begins
  | braces =>
    change stepBraces parens c rest = .ok s at h
    unfold stepBraces at h
    split at h
    · exact blank h
    split at h
    · exact blank h
    split at h
    · exact bare rfl h
    · exact token_of_map (fun _ => rfl) h fun _ _ => lexBraces_begins
  | brackets fresh colon =>
    change stepBrackets fresh colon parens c rest = .ok s at h
    unfold stepBrackets at h
    split at h
    · exact blank h
    split at h
    · split at h
      · cases h
      split at h
      · cases h
      · exact bare rfl h
    split at h
    · exact token_of_map (fun _ => rfl) h fun _ _ hlex => begins_of_none (word?_lexDuration hlex)
    split at h
    · exact bare rfl h
    split at h <;> cases h

theorem Spells.of_suffix {t rest w : Text} (hrest : rest <:+ t) (h : Spells rest w) :
    Spells t w where
  piece := h.piece.trans hrest.isInfix
  isWord := h.isWord

theorem word?_finish {mode : Mode} {parens : Nat} {ts : List Token}
    (h : finish mode parens = .ok ts) : ∀ tok ∈ ts, tok.word? = none := by
  unfold finish at h
  split at h
  · split at h
    · cases h
      exact List.forall_mem_singleton.2 rfl
    · cases h
  · cases h
  · cases h

/-- Each step takes a token from the start of the text, and what is left of the text is a piece of
it. -/
theorem tokensFrom_spelt {mode : Mode} {parens : Nat} {t : Text} {ts : List Token}
    (h : tokensFrom mode parens t = .ok ts) :
    ∀ tok ∈ ts, ∀ w, tok.word? = some w → Spells t w := by
  fun_induction tokensFrom mode parens t generalizing ts with
  | case1 mode parens =>
    intro tok htok w hw
    cases (word?_finish h tok htok).symm.trans hw
  | case2 mode parens c rest e hstep => cases h
  | case3 mode parens c rest s hstep ih =>
    cases hmore : tokensFrom s.mode s.parens s.rest with
    | error e =>
      rw [hmore] at h
      cases h
    | ok more =>
      rw [hmore] at h
      cases h
      intro tok htok w hw
      rcases List.mem_append.1 htok with hfirst | hlater
      · obtain ⟨hbegins, hword⟩ := step_begins hstep tok (Option.mem_toList.1 hfirst) w hw
        exact ⟨hbegins.isInfix, hword⟩
      · have hrest : s.rest <:+ c :: rest := (step_suffix hstep).trans (List.suffix_cons c rest)
        exact (ih hmore tok hlater w hw).of_suffix hrest

/-- **A text spells the words of its tokens.** -/
theorem tokens_spelt {t : Text} {ts : List Token} (h : tokens t = .ok ts) :
    ∀ tok ∈ ts, ∀ w, tok.word? = some w → Spells t w :=
  tokensFrom_spelt h

end RuleAudit.Query
