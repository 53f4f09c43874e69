import RuleAudit.Query.Meaning

/-!
Queries that can be computed: the tokens of a text by a recursion on a bound instead of on the
length of the text, and with them the expression of a query in three steps, each of which is a
calculation when the query is given.
-/

namespace RuleAudit.Query

/-- The tokens of a text of at most `n` characters. -/
def tokensWithin (n : Nat) (mode : Mode) (parens : Nat) (t : Text) : Except Text (List Token) :=
  match n, t with
  | _, [] => finish mode parens
  | 0, _ :: _ => .error []
  | n + 1, c :: rest =>
    match step mode parens c rest with
    | .error e => .error e
    | .ok s => (tokensWithin n s.mode s.parens s.rest).map (s.token.toList ++ ·)

theorem tokensFrom_eq_tokensWithin {n : Nat} {t : Text} (h : t.length ≤ n) (mode : Mode)
    (parens : Nat) : tokensFrom mode parens t = tokensWithin n mode parens t := by
  induction n generalizing t mode parens with
  | zero =>
    obtain rfl : t = [] := by simpa using h
    rw [tokensFrom, tokensWithin]
  | succ n ih =>
    cases t with
    | nil => rw [tokensFrom, tokensWithin]
    | cons c rest =>
      rw [tokensFrom, tokensWithin]
      cases hs : step mode parens c rest with
      | error e => simp only
      | ok s =>
        have hrest : s.rest.length ≤ n := by
          have hle := (step_suffix hs).length_le
          simp only [List.length_cons] at h
          omega
        simp only
        rw [ih hrest]

/-- **The expression of a query, step by step**: its tokens, their phrase, and what it means. -/
theorem parse_eq_ok {t : Text} {e : Expr} (ts : List Token) (p : Phrase)
    (ht : tokensWithin t.length .plain 0 t = .ok ts) (hp : Phrase.ofTokens? ts = some p)
    (he : p.meaning = .ok e) : parse t = .ok e := by
  have hts : tokens t = .ok ts := (tokensFrom_eq_tokensWithin (Nat.le_refl _) _ _).trans ht
  have hne : ts ≠ [.stop] := by
    rintro rfl
    exact absurd hp (by rw [show Phrase.ofTokens? [.stop] = none from rfl]; exact nofun)
  simp only [parse, hts, bind, Except.bind, if_neg hne, hp, he]

end RuleAudit.Query
